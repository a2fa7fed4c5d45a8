import InstallerGateway.Http.Response
import Mathlib.Tactic.SplitIfs

/-!
# The values of a header field

A name may occur several times among header fields. Which values it has there is told by all of
them, in order.
-/

namespace InstallerGateway

namespace Headers

variable {name : String} {names : List String} {headers : Headers}

/-- The values of all fields with a name. -/
def values (name : String) (headers : Headers) : List String :=
  (headers.filter fun f => sameName f.1 name).map (·.2)

theorem values_append (name : String) (headers more : Headers) :
    values name (headers ++ more) = values name headers ++ values name more := by
  simp [values]

theorem values_cons_of_same {f : String × String} (h : sameName f.1 name = true) :
    values name (f :: headers) = f.2 :: values name headers := by
  simp [values, h]

theorem values_cons_self (name value : String) (headers : Headers) :
    values name ((name, value) :: headers) = value :: values name headers :=
  values_cons_of_same (sameName_self name)

theorem values_cons_of_ne {f : String × String} (h : sameName f.1 name = false) :
    values name (f :: headers) = values name headers := by
  simp [values, h]

/-- A name that is none of those that occur has no values. -/
theorem values_eq_nil (hnames : ∀ f ∈ headers, f.1 ∈ names)
    (hname : ∀ other ∈ names, sameName other name = false) : values name headers = [] := by
  unfold values
  rw [List.map_eq_nil_iff, List.filter_eq_nil_iff]
  intro f hf
  simp [hname f.1 (hnames f hf)]

/-- A request tells the first value of a field. -/
theorem get?_eq_head? (name : String) (headers : Headers) :
    headers.get? name = (values name headers).head? := by
  induction headers with
  | nil => rfl
  | cons f rest ih =>
    unfold get?
    cases hsame : sameName f.1 name with
    | true => rw [values_cons_of_same hsame]; rfl
    | false => rw [values_cons_of_ne hsame, ← ih]; rfl

end Headers

namespace Response

variable {r : Response}

/-- Only the length of the body is added to the fields of a response that may have a body. -/
theorem sentHeaders_eq (hbody : Status.isBodiless r.status = false) :
    r.sentHeaders = if r.isSized && (r.headers.get? "Content-Length").isNone then
      r.headers ++ [("Content-Length", toString r.body.size)] else r.headers := by
  have hstatus : r.status ≠ 304 := by
    intro hstatus
    rw [hstatus] at hbody
    exact absurd hbody (by decide)
  unfold sentHeaders
  rw [if_neg hstatus, if_neg (by simp [hbody])]

/-- What is added to the headers of a response with a body is its length alone. -/
theorem values_sentHeaders {name : String} (hbody : Status.isBodiless r.status = false)
    (hname : sameName "Content-Length" name = false) :
    r.sentHeaders.values name = r.headers.values name := by
  have hlength (value : String) : Headers.values name [("Content-Length", value)] = [] :=
    Headers.values_cons_of_ne hname
  rw [sentHeaders_eq hbody]
  split_ifs
  · rw [Headers.values_append, hlength, List.append_nil]
  · rfl

end Response

end InstallerGateway
