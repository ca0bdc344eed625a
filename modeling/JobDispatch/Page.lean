/-!
Pages: a window of a listing, from one position to another, both included, with the size of the
whole listing.
-/

namespace JobDispatch

structure Page (α : Type) where
  items : List α
  start : Nat
  stop : Nat
  total : Nat
  deriving DecidableEq, Repr, Inhabited

namespace Page

/-- Cuts the window out of a listing. Its end is brought back to the last item; a window that
begins after the end of the listing, or after its own end, is empty. -/
def window {α : Type} (all : List α) (start stop : Nat) : Page α :=
  if all.length ≤ start ∨ stop < start then ⟨[], start, start, all.length⟩
  else
    let last := min stop (all.length - 1)
    ⟨(all.drop start).take (last - start + 1), start, last, all.length⟩

def isEmpty {α : Type} (p : Page α) : Bool := p.items.isEmpty

end Page

end JobDispatch
