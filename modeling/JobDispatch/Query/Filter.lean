import JobDispatch.Time.Instant
import JobDispatch.Pattern.Competency

/-!
Filters: conditions on the fields of a document, which is whatever gives a value to dotted
paths.
-/

namespace JobDispatch

inductive FieldValue where
  | text (s : String)
  | texts (ss : List String)
  | time (t : Time.Instant)
  deriving DecidableEq

abbrev Document := String → Option FieldValue

inductive Filter where
  | all
  /-- the text of a field is the value -/
  | eq (field value : String)
  /-- the text of a field is one of the values -/
  | oneOf (field : String) (values : List String)
  /-- a pattern of a field matches the value -/
  | matching (field value : String)
  /-- the time of a field is strictly before the instant -/
  | before (field : String) (instant : Time.Instant)
  | conj (terms : List Filter)
  | disj (terms : List Filter)

namespace Filter

def isAll : Filter → Bool
  | all => true
  | _ => false

/-- The conjunction without terms that everything satisfies; a single term stands for itself. -/
def and (terms : List Filter) : Filter :=
  match terms.filter fun f => !f.isAll with
  | [] => all
  | [f] => f
  | fs => conj fs

mutual

def accepts (doc : Document) : Filter → Bool
  | all => true
  | eq field value => match doc field with
    | some (.text s) => s == value
    | _ => false
  | oneOf field values => match doc field with
    | some (.text s) => values.contains s
    | _ => false
  | matching field value => match doc field with
    | some (.texts ps) => ps.any fun p => Pattern.fits p value
    | some (.text p) => Pattern.fits p value
    | _ => false
  | before field instant => match doc field with
    | some (.time t) => t.before instant
    | _ => false
  | conj terms => allAccept doc terms
  | disj terms => someAccepts doc terms

def allAccept (doc : Document) : List Filter → Bool
  | [] => true
  | f :: fs => accepts doc f && allAccept doc fs

def someAccepts (doc : Document) : List Filter → Bool
  | [] => false
  | f :: fs => accepts doc f || someAccepts doc fs

end

end Filter

end JobDispatch
