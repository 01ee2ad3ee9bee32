namespace LogMill

structure Twister where
  words : Vector UInt32 624
  next : Nat

namespace Twister

def word (ws : Vector UInt32 624) (i : Nat) : UInt32 := ws.get ⟨i % 624, Nat.mod_lt _ (by decide)⟩

def put (ws : Vector UInt32 624) (i : Nat) (w : UInt32) : Vector UInt32 624 :=
  ws.set (i % 624) w (Nat.mod_lt _ (by decide))

def fold (w : UInt32) : UInt32 := w ^^^ (w >>> 30)

def ofNumber (seed : UInt32) : Vector UInt32 624 :=
  (List.range 623).foldl (fun ws i => put ws (i + 1) (1812433253 * fold (word ws i) + (i + 1).toUInt32))
    (Vector.replicate 624 seed)

def stir (ws : Vector UInt32 624) (i : Nat) (w : UInt32) : Vector UInt32 624 × Nat :=
  let ws := put ws i w
  if i = 623 then (put ws 0 w, 1) else (ws, i + 1)

def ofKey (key : List UInt32) : Twister :=
  let key := key.toArray
  let first := (List.range (max 624 key.size)).foldl
    (fun (ws, i) n =>
      let j := n % key.size
      stir ws i ((word ws i ^^^ (fold (word ws (i - 1)) * 1664525)) + key.getD j 0 + j.toUInt32))
    (ofNumber 19650218, 1)
  let second := (List.range 623).foldl
    (fun (ws, i) _ => stir ws i ((word ws i ^^^ (fold (word ws (i - 1)) * 1566083941)) - i.toUInt32))
    first
  ⟨put second.1 0 0x80000000, 624⟩

def join (high low : UInt32) : UInt32 := (high &&& 0x80000000) ||| (low &&& 0x7FFFFFFF)

def renew (ws : Vector UInt32 624) : Vector UInt32 624 :=
  (List.range 624).foldl
    (fun ws i =>
      let y := join (word ws i) (word ws (i + 1))
      put ws i (word ws (i + 397) ^^^ (y >>> 1) ^^^ (if y &&& 1 = 0 then 0 else 0x9908B0DF)))
    ws

def temper (w : UInt32) : UInt32 :=
  let w := w ^^^ (w >>> 11)
  let w := w ^^^ ((w <<< 7) &&& 0x9D2C5680)
  let w := w ^^^ ((w <<< 15) &&& 0xEFC60000)
  w ^^^ (w >>> 18)

def draw (t : Twister) : UInt32 × Twister :=
  let t := if t.next < 624 then t else ⟨renew t.words, 0⟩
  (temper (word t.words t.next), ⟨t.words, t.next + 1⟩)

end Twister

end LogMill
