/-!
# Sinks of text

A sink takes pieces of text one by one and may refuse any of them. Whoever writes learns whether a
piece was taken; what the sink holds in either case is its own affair.

* `page_offer`: a page takes every piece.
* `bounded_offer_of_le`: a bounded page takes a piece that fits, and refuses it whole otherwise.
-/

namespace ViewBinding.Code

/-- A place for text with states `σ`. An offer gives the next state and whether the piece was
taken; `size` says how many bytes a state holds. -/
structure Sink (σ : Type) where
  offer : σ → String → σ × Bool
  size : σ → Nat

namespace Sink

/-- A sink that takes everything and holds the text. -/
def page : Sink String where
  offer text piece := (text ++ piece, true)
  size text := text.utf8ByteSize

/-- A sink that refuses, writing none of it, each piece that would take it past `limit` bytes. -/
def bounded (limit : Nat) : Sink String where
  offer text piece :=
    if text.utf8ByteSize + piece.utf8ByteSize ≤ limit then (text ++ piece, true) else (text, false)
  size text := text.utf8ByteSize

@[simp] theorem page_offer (text piece : String) : page.offer text piece = (text ++ piece, true) :=
  rfl

theorem bounded_offer_of_le {limit : Nat} {text piece : String}
    (h : text.utf8ByteSize + piece.utf8ByteSize ≤ limit) :
    (bounded limit).offer text piece = (text ++ piece, true) := by
  simp [bounded, h]

theorem bounded_offer_of_lt {limit : Nat} {text piece : String}
    (h : limit < text.utf8ByteSize + piece.utf8ByteSize) :
    (bounded limit).offer text piece = (text, false) := by
  simp [bounded, Nat.not_le.mpr h]

end Sink

end ViewBinding.Code
