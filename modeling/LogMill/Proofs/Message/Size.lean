import LogMill.Proofs.Message.Length
import LogMill.Proofs.Template.Acceptance
import LogMill.Schema
import Mathlib.Data.String.Basic

namespace LogMill

open Outcome

namespace Text

def excess (s : List Char) : Nat := (s.map fun c => c.utf8Size - 1).sum

theorem excess_append (s t : List Char) : excess (s ++ t) = excess s + excess t := by simp [excess]

theorem excess_eq_zero {s : List Char} (hs : s.all isAscii) : excess s = 0 := by
  have hone (c : Char) (hc : c ∈ s) : c.utf8Size - 1 = 0 := by
    have hascii : c.utf8Size = 1 := by
      rw [Char.utf8Size_eq_one_iff, UInt32.le_iff_toNat_le]
      exact Nat.le_of_lt_succ (of_decide_eq_true (List.all_eq_true.mp hs c hc))
    rw [hascii]
  rw [excess, List.map_congr_left hone, List.map_const', List.sum_replicate_nat, Nat.mul_zero]

theorem excess_le (s : List Char) : excess s ≤ 3 * s.length := by
  induction s with
  | nil => exact Nat.le_refl 0
  | cons c s ih =>
    have := c.utf8Size_le_four
    simp only [excess, List.map_cons, List.sum_cons, List.length_cons] at ih ⊢
    omega

theorem size_toUTF8 (s : String) : s.toUTF8.size = s.length + excess s.toList := by
  rw [String.toUTF8_eq_toByteArray, String.size_toByteArray, ← String.length_toList, ← String.ofList_toList (s := s),
    String.utf8ByteSize_ofList, String.toList_ofList]
  induction s.toList with
  | nil => rfl
  | cons c s ih =>
    have := c.utf8Size_pos
    simp only [excess, String.utf8Len_cons, List.map_cons, List.sum_cons, List.length_cons] at ih ⊢
    omega

theorem size_le (s : String) : s.toUTF8.size ≤ 4 * s.length := by
  have := excess_le s.toList
  rw [String.length_toList] at this
  rw [size_toUTF8]
  omega

end Text

namespace Message

variable {table : Table} {level : Level} {row : Int} {message : String}

theorem excess_extended (level : Level) (row : Int) (body : String) (count n : Nat) :
    Text.excess ((extended level row body count).toList.take n) = Text.excess (body.toList.take n) := by
  have htrace := (within_trace level row).weaken (Nat.le_refl _) Text.isAscii_of_isPage
  have hdetails := (Detail.within_first row (scatter row 14) count).weaken (Nat.le_refl _) fun h =>
    Text.isAscii_of_isPage (Text.isPage_of_isLine h)
  have hend (k : Nat) : ((trace level row ++ Detail.first (Placeholder.value row) (scatter row 14) count).toList.take
      k).all Text.isAscii := by
    refine List.all_eq_true.mpr fun c hc => ?_
    exact (htrace.append hdetails).of_mem (List.mem_of_mem_take hc)
  rw [extended, String.append_assoc, String.toList_append, List.take_append, Text.excess_append,
    Text.excess_eq_zero (hend _), Nat.add_zero]

theorem size_synthesize (hmessage : synthesize table level row = .ok message) : ∃ body,
    (table.choose level row).fill (Placeholder.value row) = .ok body ∧
      message.toUTF8.size = message.length + Text.excess (body.toList.take maxLength) := by
  obtain ⟨body, count, hbody, -, rfl⟩ := synthesize_eq_ok.mp hmessage
  refine ⟨body, hbody, ?_⟩
  have htake : (cut (extended level row body count)).toList = (extended level row body count).toList.take maxLength := by
    rw [toList_cut, ← String.length_toList, Nat.min_comm, ← List.take_eq_take_min]
  rw [Text.size_toUTF8, htake, excess_extended]

end Message

theorem Markup.exists_source_plain {s : List Char} (hs : s.all isPlain) : ∃ xs, s = source xs := by
  apply isSound_iff.mp
  have hread := read_texts hs []
  rw [List.append_nil, read] at hread
  simp [IsSound, hread, names]

theorem Table.exists_single {text : String} (hne : text ≠ "") (hplain : text.toList.all isPlain) : ∃ table,
    ofFields none (single text) = .ok table ∧
      ∀ row, (table.choose .info row).fill (Placeholder.value row) = .ok text := by
  have hinfo : Gives (single text) .info [text] :=
    ⟨rfl, by simp, by simpa using ⟨hne, Markup.exists_source_plain hplain⟩⟩
  have hx : "x" ≠ "" ∧ ∃ xs, "x".toList = Markup.source xs := ⟨by decide, Markup.exists_source_plain (by decide)⟩
  have hgives (level : Level) : ∃ texts, Gives (single text) level texts := by
    cases level with
    | info => exact ⟨_, hinfo⟩
    | _ => exact ⟨["x"], rfl, by simp, by simpa only [List.mem_singleton, forall_eq] using hx⟩
  obtain ⟨table, htable⟩ := exists_ofFields_iff.mpr hgives
  refine ⟨table, htable, fun row => ?_⟩
  have htext := (ofFields_iff_gives.mp htable .info).1.unique hinfo
  have hmem : (table.choose .info row).text ∈ (table.ofLevel .info).map Template.text :=
    List.mem_map_of_mem (List.get_mem _ _)
  have hsource : (table.choose .info row).text = Phrase.source [.text text] := by
    rw [htext, List.mem_singleton] at hmem
    simp [hmem, Phrase.source, Chunk.source]
  rw [Template.fill_source hsource (by simpa [Chunk.isPlain] using hplain)]
  simp [Phrase.fill, Chunk.fill]

/-- A message has from 1500 to 6600 bytes: as many as it has characters, and those that the filled template has beyond
one for each of the characters that are kept. It fits its column if these are no more than 398. -/
theorem message_size (table : Table) (level : Level) (row : Int) {message : String}
    (hmessage : Message.synthesize table level row = .ok message) : ∃ body,
    (table.choose level row).fill (Placeholder.value row) = .ok body ∧
      message.toUTF8.size = message.length + Text.excess (body.toList.take 1650) ∧
      1500 ≤ message.toUTF8.size ∧ message.toUTF8.size ≤ 6600 ∧
      ⟨"log_message", .text 2048⟩ ∈ Schema.columns ∧
      (Text.excess (body.toList.take 1650) ≤ 398 → message.toUTF8.size ≤ 2048) ∧
      (548 < Text.excess (body.toList.take 1650) → 2048 < message.toUTF8.size) := by
  obtain ⟨hshort, hlong⟩ := Message.length_synthesize hmessage
  obtain ⟨body, hbody, hsize⟩ := Message.size_synthesize hmessage
  have hbytes := Text.size_le message
  simp only [Message.targetLength, Message.maxLength] at hshort hlong hsize
  refine ⟨body, hbody, hsize, ?_, ?_, by decide, ?_, ?_⟩
  · omega
  · omega
  · omega
  · omega

theorem message_size_ascii : ∃ table message, Table.ofFields none (Table.single "ok") = .ok table ∧
    Message.synthesize table .info 0 = .ok message ∧ message.toUTF8.size ≤ 2048 := by
  have hne : "ok" ≠ "" := by decide
  obtain ⟨table, htable, hfill⟩ := Table.exists_single hne (by decide)
  obtain ⟨message, hmessage⟩ := Message.exists_synthesize_iff.mpr ⟨_, hfill 0⟩
  obtain ⟨body, hbody, -, -, -, -, hfits, -⟩ := message_size table .info 0 hmessage
  obtain rfl := Except.ok.inj ((hfill 0).symm.trans hbody)
  exact ⟨table, message, htable, hmessage, hfits (by decide)⟩

theorem message_beyond_column : ∃ table message,
    Table.ofFields none (Table.single (String.ofList (List.replicate 2000 'é'))) = .ok table ∧
      Message.synthesize table .info 0 = .ok message ∧ ⟨"log_message", .text 2048⟩ ∈ Schema.columns ∧
      2048 < message.toUTF8.size := by
  have hne (n : Nat) : String.ofList (List.replicate (n + 1) 'é') ≠ "" := by simp [List.replicate_succ]
  have hplain (n : Nat) : (String.ofList (List.replicate n 'é')).toList.all isPlain := by simp [isPlain]
  have hexcess (m n : Nat) : Text.excess ((List.replicate m 'é').take n) = min n m := by
    have hwidth : 'é'.utf8Size = 2 := by decide
    simp [Text.excess, List.take_replicate, hwidth]
  obtain ⟨table, htable, hfill⟩ := Table.exists_single (hne 1999) (hplain 2000)
  obtain ⟨message, hmessage⟩ := Message.exists_synthesize_iff.mpr ⟨_, hfill 0⟩
  obtain ⟨body, hbody, hsize⟩ := Message.size_synthesize hmessage
  obtain rfl := Except.ok.inj ((hfill 0).symm.trans hbody)
  have hlength := (Message.length_synthesize hmessage).1
  rw [String.toList_ofList, hexcess] at hsize
  refine ⟨table, message, htable, hmessage, by decide, ?_⟩
  simp only [Message.targetLength, Message.maxLength] at hlength hsize
  omega

end LogMill
