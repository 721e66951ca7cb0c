import Milp.Datum

/-!
# Inquiries about data

What a model asks of data from outside. The answers may depend on the state in which the data are,
so they are given by a record of functions; for plain data they depend on nothing.
-/

namespace Milp

/-- The questions that data can be asked. -/
structure Inquiry (δ α : Type) where
  kind : δ → Kind
  /-- The datum stands for nothing. -/
  isNull : δ → Bool
  truth : δ → Except DatumError Bool
  /-- The text that the datum is. -/
  text? : δ → Option String
  /-- The datum is equal to a text. -/
  isText : δ → String → Except DatumError Bool
  /-- The datum as a measure: a bound, a factor or an offset. -/
  measure : δ → Except DatumError α
  /-- The number of items. -/
  size : δ → Except DatumError Nat
  items : δ → Except DatumError (List δ)
  /-- The field of a name, which has to be there. -/
  get : δ → String → Except DatumError δ
  /-- The field of a name, or nothing. -/
  find : δ → String → Except DatumError δ
  /-- The two data are the same name. -/
  sameName : δ → δ → Bool
  /-- The kind of a datum under which nothing can be filed. -/
  unfit? : δ → Option String
  /-- The form of a datum that tells its kind. -/
  display : δ → Except DatumError String
  /-- The form of a datum that stands alone. -/
  plain : δ → Except DatumError String

/-- The inquiry about plain data; `ofText` reads a number in writing. -/
def Datum.inquiry {α : Type} [Scalar α] (ofText : String → Option α) : Inquiry (Datum α) α where
  kind := Datum.kind
  isNull := Datum.isNull
  truth d := .ok d.truth
  text? := Datum.text?
  isText d s := .ok (d.text? == some s)
  measure := Datum.measure ofText
  size := Datum.size
  items := Datum.items
  get := Datum.get
  find := Datum.find
  sameName := Datum.sameName
  unfit? := Datum.unfit?
  display d := .ok d.display
  plain d := .ok d.plain

namespace Inquiry

variable {δ α : Type}

/-- As `measure`, where nothing stays nothing. -/
def measure? (q : Inquiry δ α) (d : δ) : Except DatumError (Option α) :=
  if q.isNull d then .ok none else some <$> q.measure d

end Inquiry

end Milp
