import LogMill.Proofs.Message.Synthesis
import LogMill.Proofs.Template.Widths
import Mathlib.Data.List.Infix
import Mathlib.Data.Set.Basic
import Mathlib.Order.Bounds.Basic

/-!
What a message is made of: with the built-in templates nothing is cut off, so that its parts stand in it whole.
-/

namespace LogMill

open Text Outcome

namespace Text

def occurrences (mark s : List Char) : Nat := s.tails.countP mark.isPrefixOf

variable {c d : Char} {mark t : List Char}

theorem occurrences_cons (mark : List Char) (c : Char) (s : List Char) :
    occurrences mark (c :: s) = occurrences mark s + if mark.isPrefixOf (c :: s) then 1 else 0 := by
  simp [occurrences, List.countP_cons]

theorem occurrences_nil (d : Char) (mark : List Char) : occurrences (d :: mark) [] = 0 := rfl

theorem occurrences_skip (ht : d ∉ t) (s : List Char) : occurrences (d :: mark) (t ++ s) = occurrences (d :: mark) s := by
  induction t with
  | nil => rfl
  | cons c t ih =>
    simp only [List.mem_cons, not_or] at ht
    have hne : (d == c) = false := by simpa using ht.1
    rw [List.cons_append, occurrences_cons, ih ht.2]
    simp [List.isPrefixOf, hne]

theorem occurrences_break {e : Char} (hc : c ≠ e) (s : List Char) :
    occurrences (d :: e :: mark) (d :: c :: s) = occurrences (d :: e :: mark) (c :: s) := by
  have hne : (e == c) = false := by simpa using hc.symm
  rw [occurrences_cons]
  simp [List.isPrefixOf, hne]

theorem occurrences_mark (hmark : d ∉ mark) (ht : d ∉ t) (s : List Char) :
    occurrences (d :: mark) (d :: (mark ++ (t ++ s))) = occurrences (d :: mark) s + 1 := by
  have hprefix : (d :: mark).isPrefixOf (d :: (mark ++ (t ++ s))) := by simp
  rw [occurrences_cons, occurrences_skip hmark, occurrences_skip ht, if_pos hprefix]

end Text

namespace Trace

def mark : String := "\n\tat "

theorem frame_eq (row : Int) (n : Nat) : frame row n =
    mark ++ pick packages (scatter row (20 + n)) ++ "." ++ pick classes (scatter row (20 + n) >>> 4) ++ "." ++
      pick methods (scatter row (20 + n) >>> 8) ++ "(" ++ pick classes (scatter row (20 + n) >>> 4) ++ ".java:" ++
      toString (1 + (scatter row (20 + n) >>> 12) % 999) ++ ")" := rfl

theorem exists_frame (row : Int) (n : Nat) : ∃ place, frame row n = mark ++ place ∧ Within isInk 86 place := by
  have howner : Within isInk 19 (pick classes (scatter row (20 + n) >>> 4)) := pick_of_forall (by decide) _
  have hpackage : Within isInk 22 (pick packages (scatter row (20 + n))) := pick_of_forall (by decide) _
  have hmethod : Within isInk 13 (pick methods (scatter row (20 + n) >>> 8)) := pick_of_forall (by decide) _
  have hline : Within isInk 3 (toString (1 + (scatter row (20 + n) >>> 12) % 999)) :=
    within_nat (by decide) (by omega)
  have hdot : Within isInk 1 "." := by decide
  have hopen : Within isInk 1 "(" := by decide
  have hfile : Within isInk 6 ".java:" := by decide
  have hclose : Within isInk 1 ")" := by decide
  refine ⟨_, ?_, ((((((((hpackage.append hdot).append howner).append hdot).append hmethod).append hopen).append
    howner).append hfile).append hline).append hclose⟩
  simp only [frame_eq, String.append_assoc]

theorem exists_heading (row : Int) : ∃ heading, heading ≠ "" ∧ Within isLine 73 heading ∧
    text row = "\n" ++ heading ++ String.join ((List.range (depth row)).map (frame row)) := by
  have hexception : exception row ≠ "" ∧ Within isLine 54 (exception row) := by
    have hall : ∀ x ∈ exceptions.toList, x ≠ "" ∧ Within isLine 54 x := by decide
    exact pick_of_forall hall _
  have htail : Within isLine 19 ": operation aborted" := by decide
  refine ⟨exception row ++ ": operation aborted", ?_, hexception.2.append htail, ?_⟩
  · rw [Ne, String.append_eq_empty_iff]
    exact fun h => hexception.1 h.1
  · simp only [text, String.append_assoc]

theorem depth_le (row : Int) : depth row ≤ 8 := by
  simp only [depth, minDepth, maxDepth]
  omega

theorem within_text (row : Int) : Within isPage 802 (text row) := by
  obtain ⟨heading, -, hheading, htext⟩ := exists_heading row
  have hbreak : Within isPage 1 "\n" := by decide
  have hframes : ∀ f ∈ (List.range (depth row)).map (frame row), Within isPage 91 f := by
    intro f hf
    obtain ⟨n, -, rfl⟩ := List.mem_map.mp hf
    obtain ⟨place, hframe, hplace⟩ := exists_frame row n
    have hmark : Within isPage 5 mark := by decide
    rw [hframe]
    exact hmark.append (hplace.weaken (Nat.le_refl _) fun h => isPage_of_isLine (isLine_of_isInk h))
  rw [htext]
  apply ((hbreak.append (hheading.weaken (Nat.le_refl _) isPage_of_isLine)).append (Within.join hframes)).widen
  have := depth_le row
  simp only [List.length_map, List.length_range]
  omega

theorem mark_toList : mark.toList = '\n' :: '\t' :: "at ".toList := by decide

theorem occurrences_frames (row : Int) (numbers : List Nat) (s : List Char) :
    occurrences mark.toList ((String.join (numbers.map (frame row))).toList ++ s) =
      numbers.length + occurrences mark.toList s := by
  induction numbers with
  | nil => simp
  | cons n numbers ih =>
    obtain ⟨place, hframe, hplace⟩ := exists_frame row n
    rw [List.map_cons, String.join_cons, hframe, List.length_cons]
    simp only [String.toList_append, List.append_assoc]
    rw [mark_toList] at ih ⊢
    rw [List.cons_append, occurrences_mark (by decide) (hplace.not_mem (by decide)), ih]
    omega

theorem occurrences_line {k : Nat} {line : String} (hline : Within isLine k line) (hne : line ≠ "") (s : List Char) :
    occurrences mark.toList ('\n' :: (line.toList ++ s)) = occurrences mark.toList s := by
  have hbreak : '\n' ∉ line.toList := hline.not_mem (by decide)
  have htab : '\t' ∉ line.toList := hline.not_mem (by decide)
  cases h : line.toList with
  | nil => exact absurd (String.toList_eq_nil_iff.mp h) hne
  | cons c rest =>
    rw [h] at hbreak
    rw [h, List.mem_cons, not_or] at htab
    rw [mark_toList, List.cons_append, occurrences_break (Ne.symm htab.1), ← List.cons_append,
      occurrences_skip hbreak]

theorem occurrences_text (row : Int) (s : List Char) :
    occurrences mark.toList ((text row).toList ++ s) = depth row + occurrences mark.toList s := by
  obtain ⟨heading, hne, hheading, htext⟩ := exists_heading row
  have hframes := occurrences_frames row (List.range (depth row)) s
  rw [List.length_range] at hframes
  rw [htext, ← hframes, String.toList_append, String.toList_append, List.append_assoc, List.append_assoc]
  exact occurrences_line hheading hne _

end Trace

namespace Detail

def first (values : Placeholder → String) (n count : Nat) : String :=
  String.join ((List.range count).map fun j => fragments[(n % 6 + j) % 6].fill values)

theorem first_eq (values : Placeholder → String) (n count : Nat) :
    first values n count = String.join ((List.range count).map fun j => fragment values (n + j)) := by
  simp only [first, fragment, pick, Vector.get, Nat.mod_add_mod]
  rfl

theorem first_succ (values : Placeholder → String) (n count : Nat) :
    first values n (count + 1) = first values n count ++ fragment values (n + count) := by
  simp [first_eq, List.range_succ]

theorem first_succ' (values : Placeholder → String) (n count : Nat) :
    first values n (count + 1) = fragment values n ++ first values (n + 1) count := by
  simp [first_eq, List.range_succ_eq_map, Function.comp_def, Nat.add_comm, Nat.add_left_comm]

theorem exists_padding (values : Placeholder → String) (n missing : Nat) : ∃ count,
    String.join (padding values n missing) = first values n count ∧
      IsLeast {j | missing ≤ (first values n j).length} count := by
  induction n, missing using padding.induct values with
  | case1 n =>
    rw [padding]
    exact ⟨0, rfl, Nat.zero_le _, fun j _ => Nat.zero_le j⟩
  | case2 n missing h ih =>
    obtain ⟨count, hjoin, hreached, hleast⟩ := ih
    simp only [Set.mem_ofPred_eq] at hreached
    refine ⟨count + 1, ?_, ?_, ?_⟩
    · rw [padding, if_neg h, String.join_cons, hjoin, first_succ']
    · rw [Set.mem_ofPred_eq, first_succ', String.length_append]
      omega
    · intro j hj
      cases j with
      | zero => exact absurd (Nat.le_zero.mp hj) h
      | succ j =>
        rw [Set.mem_ofPred_eq, first_succ', String.length_append] at hj
        have : count ≤ j := hleast (show missing - (fragment values n).length ≤ _ by omega)
        omega

theorem within_first (row : Int) (n count : Nat) :
    Within isLine (count * 100) (first (Placeholder.value row) n count) := by
  have hjoin : ∀ s ∈ (List.range count).map fun j => fragment (Placeholder.value row) (n + j), Within isLine 100 s := by
    intro s hs
    obtain ⟨j, -, rfl⟩ := List.mem_map.mp hs
    exact within_fragment row (n + j)
  rw [first_eq]
  simpa only [List.length_map, List.length_range] using Within.join hjoin

end Detail

namespace Message

theorem within_trace (level : Level) (row : Int) : Within isPage 802 (trace level row) := by
  unfold trace
  split
  · exact Trace.within_text row
  · decide

def extended (level : Level) (row : Int) (body : String) (count : Nat) : String :=
  body ++ trace level row ++ Detail.first (Placeholder.value row) (scatter row 14) count

theorem exists_extended (level : Level) (row : Int) (body : String) : ∃ count,
    IsLeast {j | targetLength ≤ (extended level row body j).length} count ∧
      body ++ trace level row ++ String.join (Detail.padding (Placeholder.value row) (scatter row 14)
        (targetLength - (body ++ trace level row).length)) = extended level row body count := by
  obtain ⟨count, hjoin, hreached, hleast⟩ := Detail.exists_padding (Placeholder.value row) (scatter row 14)
    (targetLength - (body ++ trace level row).length)
  have hiff (j : Nat) : targetLength ≤ (extended level row body j).length ↔
      targetLength - (body ++ trace level row).length ≤
        (Detail.first (Placeholder.value row) (scatter row 14) j).length := by
    rw [extended, String.length_append]
    omega
  exact ⟨count, ⟨(hiff count).mpr hreached, fun j hj => hleast ((hiff j).mp hj)⟩, by rw [hjoin, extended]⟩

theorem synthesize_eq_ok {table : Table} {level : Level} {row : Int} {message : String} :
    synthesize table level row = .ok message ↔ ∃ body count,
      (table.choose level row).fill (Placeholder.value row) = .ok body ∧
      IsLeast {j | targetLength ≤ (extended level row body j).length} count ∧
      message = cut (extended level row body count) := by
  simp only [synthesize, whole, map_eq_ok, bind_eq_ok, pure, Except.pure, Except.ok.injEq]
  constructor
  · rintro ⟨_, ⟨body, hbody, rfl⟩, rfl⟩
    obtain ⟨count, hcount, hwhole⟩ := exists_extended level row body
    exact ⟨body, count, hbody, hcount, by rw [hwhole]⟩
  · rintro ⟨body, count, hbody, hcount, rfl⟩
    obtain ⟨count', hcount', hwhole⟩ := exists_extended level row body
    obtain rfl := hcount'.unique hcount
    exact ⟨_, ⟨body, hbody, rfl⟩, by rw [hwhole]⟩

def upTo (level : Level) (row : Int) (phrase : Phrase) (count : Nat) : String :=
  phrase.fill (Placeholder.value row) ++ trace level row ++
    Detail.first (Placeholder.value row) (scatter row 14) count

variable {level : Level} {row : Int} {phrase : Phrase} {count : Nat}

theorem within_start (hphrase : phrase ∈ Builtin.ofLevel level) (row : Int) :
    Within isPage 1032 (phrase.fill (Placeholder.value row) ++ trace level row) := by
  have hbody := Phrase.within_fill (Builtin.isLine hphrase) (Placeholder.within_value row)
  exact (hbody.weaken (Builtin.width_le hphrase) isPage_of_isLine).append (within_trace level row)

theorem within_upTo (hphrase : phrase ∈ Builtin.ofLevel level)
    (hleast : IsLeast {j | targetLength ≤ (upTo level row phrase j).length} count) :
    Within isPage 1599 (upTo level row phrase count) := by
  have hstart := within_start hphrase row
  -- Without the last detail the message is still too short, so that it ends within the width of one detail.
  cases count with
  | zero =>
    refine Within.widen ?_ (show 1032 ≤ 1599 by decide)
    simpa only [upTo, Detail.first, List.range_zero, List.map_nil, String.join_nil, String.append_empty] using hstart
  | succ count =>
    have hbefore : (upTo level row phrase count).length < targetLength := by
      by_contra hnot
      exact absurd (hleast.2 (Nat.le_of_not_lt hnot)) (Nat.not_succ_le_self count)
    have hlast := Detail.within_fragment row (scatter row 14 + count)
    have hdetails := Detail.within_first row (scatter row 14) count
    have hkind := (hstart.append (hdetails.weaken (Nat.le_refl _) isPage_of_isLine)).kind
    have hupTo : Within isPage 1499 (upTo level row phrase count) := ⟨hkind, Nat.le_of_lt_succ hbefore⟩
    have happend := hupTo.append (hlast.weaken (Nat.le_refl _) isPage_of_isLine)
    rwa [upTo, String.append_assoc, ← Detail.first_succ, ← upTo] at happend

theorem exists_upTo (level : Level) (row : Int) : ∃ phrase count,
    (Builtin.ofLevel level)[scatter row 10 % (Builtin.ofLevel level).length]? = some phrase ∧
      (Table.builtin.choose level row).text = phrase.source ∧
      IsLeast {j | targetLength ≤ (upTo level row phrase j).length} count ∧
      synthesize .builtin level row = .ok (upTo level row phrase count) := by
  obtain ⟨phrase, hphrase, htext, hfill⟩ := Table.choose_builtin level row
  obtain ⟨_, hmessage⟩ := exists_synthesize_iff.mpr ⟨_, hfill (Placeholder.value row)⟩
  obtain ⟨body, count, hbody, hcount, rfl⟩ := synthesize_eq_ok.mp hmessage
  obtain rfl : phrase.fill (Placeholder.value row) = body := Except.ok.inj ((hfill _).symm.trans hbody)
  have hshort := (within_upTo (List.mem_of_getElem? hphrase) hcount).length_le
  have hcut : cut (upTo level row phrase count) = upTo level row phrase count :=
    if_pos (Nat.le_trans hshort (by decide))
  exact ⟨phrase, count, hphrase, htext, hcount, hmessage.trans (congrArg Except.ok hcut)⟩

theorem within_synthesize (level : Level) (row : Int) : ∃ message,
    synthesize .builtin level row = .ok message ∧ Within isPage 1599 message := by
  obtain ⟨phrase, count, hphrase, -, hcount, hmessage⟩ := exists_upTo level row
  exact ⟨_, hmessage, within_upTo (List.mem_of_getElem? hphrase) hcount⟩

theorem occurrences_upTo (hphrase : phrase ∈ Builtin.ofLevel level) (row : Int) (count : Nat) :
    occurrences Trace.mark.toList (upTo level row phrase count).toList =
      if level = .error ∧ Trace.isDue row then Trace.depth row else 0 := by
  have hbody := Phrase.within_fill (Builtin.isLine hphrase) (Placeholder.within_value row)
  have hdetails := Detail.within_first row (scatter row 14) count
  have hend : occurrences Trace.mark.toList (Detail.first (Placeholder.value row) (scatter row 14) count).toList = 0 := by
    rw [Trace.mark_toList, ← List.append_nil (Detail.first _ _ _).toList]
    exact (occurrences_skip (hdetails.not_mem (by decide)) []).trans (occurrences_nil _ _)
  rw [upTo, String.toList_append, String.toList_append, List.append_assoc, Trace.mark_toList,
    occurrences_skip (hbody.not_mem (by decide)), ← Trace.mark_toList, trace]
  split
  · rw [Trace.occurrences_text, hend, Nat.add_zero]
  · simpa using hend

end Message

/-- A message with the built-in templates is the filled template of its row, for an error with a trace all of that
trace, and as many details as it takes to get to its length, all of them whole. -/
theorem message_composed (level : Level) (row : Int) : ∃ (phrase : Phrase) (count : Nat) (message : String),
    (Builtin.ofLevel level)[scatter row 10 % (Builtin.ofLevel level).length]? = some phrase ∧
    (Table.builtin.choose level row).text = phrase.source ∧
    Message.synthesize .builtin level row = .ok message ∧
    message = phrase.fill (Placeholder.value row) ++
      (if level = .error ∧ Trace.isDue row then Trace.text row else "") ++
      Detail.first (Placeholder.value row) (scatter row 14) count ∧
    1 ≤ count ∧ IsLeast {j | 1500 ≤ (Message.upTo level row phrase j).length} count ∧
    1500 ≤ message.length ∧ message.length ≤ 1599 ∧ '{' ∉ message.toList ∧ '}' ∉ message.toList ∧
    occurrences "\n\tat ".toList message.toList =
      if level = .error ∧ Trace.isDue row then 3 + scatter row 12 % 6 else 0 := by
  obtain ⟨phrase, count, hphrase, htext, hcount, hmessage⟩ := Message.exists_upTo level row
  have hmem := List.mem_of_getElem? hphrase
  have hwithin := Message.within_upTo hmem hcount
  refine ⟨phrase, count, _, hphrase, htext, hmessage, rfl, ?_, hcount, hcount.1, hwithin.length_le,
    hwithin.not_mem (by decide), hwithin.not_mem (by decide), Message.occurrences_upTo hmem row count⟩
  -- No phrase has the length by itself, not even with the longest trace.
  have hstart := (Message.within_start hmem row).length_le
  apply Nat.one_le_iff_ne_zero.mpr
  rintro rfl
  have hreached := hcount.1
  simp only [Set.mem_ofPred_eq, Message.upTo, Detail.first, List.range_zero, List.map_nil, String.join_nil,
    String.append_empty] at hreached
  exact absurd (Nat.le_trans hreached hstart) (by decide)

end LogMill
