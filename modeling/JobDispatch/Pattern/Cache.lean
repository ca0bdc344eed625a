import JobDispatch.Pattern.Competency

/-!
Competencies whose meanings are kept for the next time.
-/

namespace JobDispatch.Pattern

/-- The meanings found so far, by the texts of the patterns. -/
structure Cache where
  known : List (String × Option Meaning)

namespace Cache

def empty : Cache := ⟨[]⟩

/-- The meaning of a competency, from the cache or found and put there. -/
def find (c : Cache) (p : String) : Option Meaning × Cache :=
  match c.known.lookup p with
  | some m => (m, c)
  | none =>
    let m := competency? p
    (m, ⟨(p, m) :: c.known⟩)

/-- Whether a competency covers a value, and the cache afterwards. -/
def fits (c : Cache) (p v : String) : Bool × Cache :=
  let (m, c) := c.find p
  (covers m p v, c)

end Cache

end JobDispatch.Pattern
