import InstallerGateway.Http.Request
import InstallerGateway.Proofs.Number.Numeral
import Mathlib.Tactic.SplitIfs

/-!
# What requests declare

A header field has the value to which it was set last. A request whose last field declares the
length of its body in decimal digits is received with the whole body.
-/

namespace InstallerGateway

/-! ## Header fields -/

namespace Headers

variable {name value : String}

theorem get?_append_of_not_any {headers : Headers}
    (h : (headers.any fun f => sameName f.1 name) = false) (later : Headers) :
    (headers ++ later).get? name = later.get? name := by
  induction headers with
  | nil => rfl
  | cons f rest ih =>
    obtain ⟨n, v⟩ := f
    rw [List.any_cons, Bool.or_eq_false_iff] at h
    show (if sameName n name then some v else get? name (rest ++ later)) = _
    rw [if_neg (by simp [h.1]), ih h.2]

/-- A field that is replaced has the new value. -/
theorem get?_replace {headers : Headers} (h : (headers.any fun f => sameName f.1 name) = true) :
    (set.replace name value headers).get? name = some value := by
  induction headers with
  | nil => cases h
  | cons f rest ih =>
    obtain ⟨n, v⟩ := f
    unfold set.replace
    split_ifs with hname
    · simp [get?]
    · have hrest : (rest.any fun f => sameName f.1 name) = true := by simpa [hname] using h
      show (if sameName n name then some v else _) = _
      rw [if_neg hname]
      exact ih hrest

/-- A field that is set has that value. -/
theorem get?_set (name value : String) (headers : Headers) :
    (headers.set name value).get? name = some value := by
  unfold set
  split_ifs with h
  · exact get?_replace h
  · rw [get?_append_of_not_any (by simpa using h)]
    simp [get?]

/-- Of the fields that are sent with one name the last one counts. -/
theorem get?_ofSent (fields : List (String × String)) (name value : String) :
    (ofSent (fields ++ [(name, value)])).get? (hyphenated name) = some value := by
  unfold ofSent
  rw [List.foldl_append]
  exact get?_set _ _ _

end Headers

/-! ## Declared lengths -/

namespace Request

/-- The digits of a length are read as the number that they write. -/
theorem foldl_asciiDigit? {cs : List Char} (h : ∀ c ∈ cs, c.isDigit = true) (n : Nat) :
    cs.foldl (fun n? c => do return (← n?) * 10 + (← asciiDigit? c)) (some n) =
      some (Nat.ofDigitChars 10 cs n) := by
  induction cs generalizing n with
  | nil => rfl
  | cons c rest ih =>
    have hc : asciiDigit? c = some (c.toNat - '0'.toNat) := by
      obtain ⟨hlower, hupper⟩ := Char.isDigit_iff_toNat.mp (h c List.mem_cons_self)
      exact if_pos (by simpa using ⟨hlower, hupper⟩)
    rw [List.foldl_cons, Nat.ofDigitChars_cons, ← ih fun d hd => h d (List.mem_cons_of_mem _ hd)]
    simp [hc, Nat.mul_comm]

/-- A length that is written in digits is the one that they declare. -/
theorem lengthOf?_of_text? {n : Nat} {text : String} (h : Numeral.text? n = some text) :
    lengthOf? text = some n := by
  obtain ⟨hlength, rfl⟩ := Numeral.text?_eq_some_iff.mp h
  have hdigits : ∀ c ∈ (toString n).toList, c.isDigit = true := fun c => isDigit_of_mem_repr
  have hblank : ∀ c ∈ (toString n).toList, isBlank c = false := fun c hc =>
    isBlank_of_isDigit (hdigits c hc)
  have hfew : ¬ Numeral.maxDigits < (toString n).toList.length := by
    have hlist : (toString n).toList = Nat.toDigits 10 n := Nat.toList_repr
    rw [hlist]
    exact Nat.not_lt.mpr hlength
  show lengthOf? (toString n) = some n
  unfold lengthOf?
  dsimp only
  rw [stripBy_of_forall hblank]
  split
  · rename_i ds hsign
    have hminus := hdigits '-' (by rw [hsign]; exact List.mem_cons_self)
    exact absurd hminus (by decide)
  · rw [if_neg (by simpa using Nat.not_lt.mp hfew), foldl_asciiDigit? hdigits,
      Numeral.ofDigitChars_toString]

/-- A request that ends with the declaration of its length is received whole. -/
theorem received?_ofSent {method path length : String} {fields : List (String × String)}
    {body : ByteArray} {remote : Option String} {r : Request}
    (h : r = .ofSent method path (fields ++ [("Content-Length", length)]) body remote)
    (hlength : Numeral.text? body.size = some length)
    (hwhole : r.headers.get? "Transfer-Encoding" ≠ some "chunked") : r.received? = some body := by
  have hdeclared : r.headers.get? "Content-Length" = some length := by
    rw [h]
    exact Headers.get?_ofSent fields "Content-Length" _
  have hcount : r.contentLength? = some body.size := by
    unfold contentLength?
    rw [if_neg hwhole, hdeclared]
    exact lengthOf?_of_text? hlength
  have hbody : r.body = body := by rw [h]; rfl
  unfold received?
  rw [hcount, hbody]
  simp

end Request

end InstallerGateway
