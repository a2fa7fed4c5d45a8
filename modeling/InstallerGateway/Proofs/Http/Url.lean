import InstallerGateway.Text.Character
import Mathlib.Data.List.TakeDrop
import Mathlib.Data.List.TakeWhile

/-!
# The parts of a URL

A URL is taken apart as RFC 3986 does it (appendix B). In its path, a percent sign with two
hexadecimal digits stands for one octet, and all other characters stand for the octets of their
UTF-8 form. So a text that holds such an escape stands for fewer octets than its own UTF-8 form has.
-/

namespace InstallerGateway

/-- The parts of a URL. -/
structure Url where
  scheme : Option (List Char)
  authority : Option (List Char)
  path : List Char
  query : Option (List Char)
  fragment : Option (List Char)
  deriving DecidableEq

namespace Url

variable {cs before after stops scheme authority path : List Char} {mark : Char}
  {part? query fragment : Option (List Char)}

/-! ## Taking apart -/

/-- The text up to the first of some characters, and the rest. -/
def upTo (stops cs : List Char) : List Char × List Char := cs.span fun c => !stops.contains c

/-- What follows a mark at the start of the text, up to the first of some characters, and the
rest. -/
def marked (mark : Char) (stops : List Char) : List Char → Option (List Char) × List Char
  | [] => (none, [])
  | c :: rest => if c = mark then (upTo stops rest).map some id else (none, c :: rest)

/-- The scheme, if there is one, and the rest. -/
def takeScheme (cs : List Char) : Option (List Char) × List Char :=
  match upTo [':', '/', '?', '#'] cs with
  | (c :: scheme, ':' :: rest) => (some (c :: scheme), rest)
  | _ => (none, cs)

/-- The authority, if there is one, and the rest. -/
def takeAuthority : List Char → Option (List Char) × List Char
  | '/' :: '/' :: rest => (upTo ['/', '?', '#'] rest).map some id
  | cs => (none, cs)

/-- The parts of a text as a URL. -/
def split (text : String) : Url :=
  let (scheme, rest) := takeScheme text.toList
  let (authority, rest) := takeAuthority rest
  let (path, rest) := upTo ['?', '#'] rest
  let (query, rest) := marked '?' ['#'] rest
  ⟨scheme, authority, path, query, (marked '#' [] rest).1⟩

/-- The text ends here, or goes on with one of the characters. -/
def IsStop (stops cs : List Char) : Prop := ∀ c ∈ cs.head?, c ∈ stops

/-- What is taken up to a stop is what stands before the first one. -/
theorem upTo_append (hfree : ∀ c ∈ before, c ∉ stops) (hstop : IsStop stops after) :
    upTo stops (before ++ after) = (before, after) := by
  have hpass : ∀ c ∈ before, (!stops.contains c) = true := by simpa using hfree
  unfold upTo
  rw [List.span_eq_takeWhile_dropWhile, List.takeWhile_append_of_pos hpass,
    List.dropWhile_append_of_pos hpass]
  cases after with
  | nil => simp
  | cons c rest =>
    have hc : c ∈ stops := hstop c rfl
    rw [List.takeWhile_cons_of_neg (by simp [hc]), List.dropWhile_cons_of_neg (by simp [hc]),
      List.append_nil]

/-- Every text goes on freely to a place where it stops. -/
theorem exists_upTo (stops cs : List Char) : ∃ before after, cs = before ++ after ∧
    (∀ c ∈ before, c ∉ stops) ∧ IsStop stops after := by
  refine ⟨cs.takeWhile fun c => !stops.contains c, cs.dropWhile fun c => !stops.contains c,
    List.takeWhile_append_dropWhile.symm, fun c hc => ?_, fun c hc => ?_⟩
  · simpa using List.mem_takeWhile_imp hc
  · have hstop := List.head?_dropWhile_not (fun c => !stops.contains c) cs
    rw [Option.mem_def.mp hc] at hstop
    simpa using hstop

/-- A part, after its mark, if it is there. -/
def withMark (mark : Char) (part? : Option (List Char)) : List Char := part?.elim [] (mark :: ·)

theorem isStop_withMark (mark : Char) (part? : Option (List Char)) (h : mark ∈ stops) :
    IsStop stops (withMark mark part?) := by
  cases part? with
  | none => exact nofun
  | some part => simpa [IsStop, withMark] using h

/-- A part with its mark is taken from the front of a URL as it was put there. -/
theorem marked_append (hfree : ∀ part ∈ part?, ∀ c ∈ part, c ∉ stops) (hstop : IsStop stops after)
    (hmark : mark ∉ after.head?) : marked mark stops (withMark mark part? ++ after) =
      (part?, after) := by
  cases part? with
  | none =>
    cases after with
    | nil => rfl
    | cons c rest =>
      have hc : c ≠ mark := by simpa using hmark
      exact if_neg hc
  | some part =>
    show (if mark = mark then (upTo stops (part ++ after)).map some id else _) = _
    rw [if_pos rfl, upTo_append (hfree part rfl) hstop]
    rfl

/-- The scheme of a URL is what stands before its first colon. -/
theorem takeScheme_append (hne : scheme ≠ [])
    (hfree : ∀ c ∈ scheme, c ∉ [':', '/', '?', '#']) :
    takeScheme (scheme ++ ':' :: after) = (some scheme, after) := by
  have hstop : IsStop [':', '/', '?', '#'] (':' :: after) := by simp [IsStop]
  unfold takeScheme
  rw [upTo_append hfree hstop]
  cases scheme with
  | nil => exact absurd rfl hne
  | cons c scheme => rfl

/-- The text of a URL with these parts. -/
def join (scheme authority path : List Char) (query fragment : Option (List Char)) : List Char :=
  scheme ++ ':' :: '/' :: '/' :: (authority ++ (path ++ (withMark '?' query ++
    withMark '#' fragment)))

/-- A URL is taken apart into the parts that it is put together from, if none of them holds a
character that ends it, and the path begins with a slash. -/
theorem split_join (hne : scheme ≠ []) (hscheme : ∀ c ∈ scheme, c ∉ [':', '/', '?', '#'])
    (hauthority : ∀ c ∈ authority, c ∉ ['/', '?', '#'])
    (hpath : ∀ c ∈ '/' :: path, c ∉ ['?', '#']) (hquery : ∀ q ∈ query, ∀ c ∈ q, c ∉ ['#']) :
    split (String.ofList (join scheme authority ('/' :: path) query fragment)) =
      ⟨some scheme, some authority, '/' :: path, query, fragment⟩ := by
  have hend : IsStop ['#'] (withMark '#' fragment) := isStop_withMark '#' fragment (by simp)
  have hmark : '?' ∉ (withMark '#' fragment).head? := by
    cases fragment with
    | none => simp [withMark]
    | some f => simp [withMark]
  have hstop : IsStop ['?', '#'] (withMark '?' query ++ withMark '#' fragment) := by
    cases query with
    | none => exact isStop_withMark '#' fragment (by simp)
    | some q => simp [IsStop, withMark]
  have hslash : IsStop ['/', '?', '#'] ('/' :: path ++ (withMark '?' query ++
      withMark '#' fragment)) := by simp [IsStop]
  have hfragment : (marked '#' [] (withMark '#' fragment)).1 = fragment := by
    have hmarked : marked '#' [] (withMark '#' fragment ++ []) = (fragment, []) :=
      marked_append (by simp) nofun (by simp)
    rw [List.append_nil] at hmarked
    rw [hmarked]
  have hfrom : takeAuthority ('/' :: '/' :: (authority ++ ('/' :: path ++ (withMark '?' query ++
      withMark '#' fragment)))) = (some authority, '/' :: path ++ (withMark '?' query ++
        withMark '#' fragment)) := by
    show (upTo ['/', '?', '#'] _).map some id = _
    rw [upTo_append hauthority hslash]
    rfl
  unfold split join
  rw [String.toList_ofList, takeScheme_append hne hscheme]
  dsimp only
  rw [hfrom]
  dsimp only
  rw [upTo_append hpath hstop]
  dsimp only
  rw [marked_append hquery hend hmark]
  dsimp only
  rw [hfragment]

/-- Whatever a text holds, it is a part of a path with a query and a fragment. -/
theorem exists_parts (cs : List Char) : ∃ path query fragment,
    cs = path ++ (withMark '?' query ++ withMark '#' fragment) ∧ (∀ c ∈ path, c ∉ ['?', '#']) ∧
      ∀ q ∈ query, ∀ c ∈ q, c ∉ ['#'] := by
  obtain ⟨path, rest, rfl, hpath, hstop⟩ := exists_upTo ['?', '#'] cs
  cases rest with
  | nil => exact ⟨path, none, none, by simp [withMark], hpath, nofun⟩
  | cons c rest =>
    have hc : c = '?' ∨ c = '#' := by simpa using hstop c rfl
    rcases hc with rfl | rfl
    · obtain ⟨query, rest, rfl, hquery, hstop⟩ := exists_upTo ['#'] rest
      refine ⟨path, some query, rest.tail?, ?_, hpath, fun q hq => Option.mem_some.mp hq ▸ hquery⟩
      cases rest with
      | nil => simp [withMark]
      | cons c rest =>
        obtain rfl : c = '#' := by simpa using hstop c rfl
        simp [withMark]
    · exact ⟨path, none, some rest, by simp [withMark], hpath, nofun⟩

/-! ## Escapes -/

/-- The octets of a text in UTF-8. -/
def utf8 (cs : List Char) : List UInt8 := cs.flatMap String.utf8EncodeChar

theorem utf8_injective : Function.Injective utf8 := by
  intro cs cs' h
  have hbytes : (String.ofList cs).toByteArray = (String.ofList cs').toByteArray := by
    rw [String.toByteArray_ofList, String.toByteArray_ofList]
    exact congrArg List.toByteArray h
  exact String.ofList_inj.mp (String.toByteArray_inj.mp hbytes)

/-- The octet that two hexadecimal digits stand for. -/
def octet? (high low : Char) : Option UInt8 := do
  return UInt8.ofNat ((← hexDigit? high) * 16 + (← hexDigit? low))

/-- The octets that a part of a URL stands for. -/
def octets : List Char → List UInt8
  | '%' :: high :: low :: rest =>
    match octet? high low with
    | some b => b :: octets rest
    | none => String.utf8EncodeChar '%' ++ octets (high :: low :: rest)
  | c :: rest => String.utf8EncodeChar c ++ octets rest
  | [] => []

/-- Somewhere in the text two hexadecimal digits follow a percent sign. -/
def HoldsEscape (cs : List Char) : Prop :=
  ∃ before high low after, cs = before ++ '%' :: high :: low :: after ∧
    (octet? high low).isSome = true

/-- An escape stands at the front of a text or behind its first character. -/
theorem holdsEscape_cons {c : Char} (h : HoldsEscape (c :: cs)) :
    (∃ high low after, c = '%' ∧ cs = high :: low :: after ∧ (octet? high low).isSome = true) ∨
      HoldsEscape cs := by
  obtain ⟨before, high, low, after, hcs, hdigits⟩ := h
  cases before with
  | nil =>
    obtain ⟨rfl, rfl⟩ := List.cons.inj hcs
    exact .inl ⟨high, low, after, rfl, rfl, hdigits⟩
  | cons x before => exact .inr ⟨before, high, low, after, (List.cons.inj hcs).2, hdigits⟩

theorem HoldsEscape.cons {c : Char} (h : HoldsEscape cs) : HoldsEscape (c :: cs) := by
  obtain ⟨before, high, low, after, rfl, hdigits⟩ := h
  exact ⟨c :: before, high, low, after, rfl, hdigits⟩

theorem octets_escape {high low : Char} {rest : List Char} {b : UInt8}
    (h : octet? high low = some b) : octets ('%' :: high :: low :: rest) = b :: octets rest := by
  rw [octets, h]

/-- A percent sign that begins no escape stands for itself. -/
theorem octets_sign {high low : Char} {rest : List Char} (h : octet? high low = none) :
    octets ('%' :: high :: low :: rest) =
      String.utf8EncodeChar '%' ++ octets (high :: low :: rest) := by
  rw [octets, h]

theorem utf8_cons (c : Char) (cs : List Char) :
    utf8 (c :: cs) = String.utf8EncodeChar c ++ utf8 cs :=
  List.flatMap_cons

theorem length_utf8_cons (c : Char) (cs : List Char) :
    (utf8 cs).length < (utf8 (c :: cs)).length := by
  have hpos := Char.utf8Size_pos c
  rw [utf8_cons, List.length_append, String.length_utf8EncodeChar]
  omega

theorem length_utf8_escape (sign high low : Char) (rest : List Char) :
    (utf8 rest).length + 3 ≤ (utf8 (sign :: high :: low :: rest)).length := by
  have hlow := length_utf8_cons low rest
  have hhigh := length_utf8_cons high (low :: rest)
  have hsign := length_utf8_cons sign (high :: low :: rest)
  omega

/-- A text without escapes stands for itself. -/
theorem octets_of_not_holdsEscape (h : ¬ HoldsEscape cs) : octets cs = utf8 cs := by
  induction cs using octets.induct with
  | case1 high low rest b hb ih => exact absurd ⟨[], high, low, rest, rfl, by rw [hb]; rfl⟩ h
  | case2 high low rest hb ih =>
    rw [octets_sign hb, ih fun hrest => h hrest.cons]
    rfl
  | case3 c rest hc ih =>
    rw [octets, ih fun hrest => h hrest.cons]
    · rfl
    · exact hc
  | case4 => rfl

/-- Escapes make the octets fewer. -/
theorem length_octets_le (cs : List Char) : (octets cs).length ≤ (utf8 cs).length := by
  induction cs using octets.induct with
  | case1 high low rest b hb ih =>
    have hescape := length_utf8_escape '%' high low rest
    rw [octets_escape hb, List.length_cons]
    omega
  | case2 high low rest hb ih =>
    rw [octets_sign hb, utf8_cons, List.length_append, List.length_append]
    omega
  | case3 c rest hc ih =>
    rw [octets, utf8_cons, List.length_append, List.length_append]
    · omega
    · exact hc
  | case4 => exact Nat.le_refl 0

/-- A text with an escape stands for fewer octets than it has. -/
theorem length_octets_lt (h : HoldsEscape cs) : (octets cs).length < (utf8 cs).length := by
  induction cs using octets.induct with
  | case1 high low rest b hb ih =>
    have hrest := length_octets_le rest
    have hescape := length_utf8_escape '%' high low rest
    rw [octets_escape hb, List.length_cons]
    omega
  | case2 high low rest hb ih =>
    have hrest : HoldsEscape (high :: low :: rest) := by
      rcases holdsEscape_cons h with ⟨_, _, _, -, hparts, hdigits⟩ | hrest
      · cases hparts
        rw [hb] at hdigits
        cases hdigits
      · exact hrest
    have hlt := ih hrest
    rw [octets_sign hb, utf8_cons, List.length_append, List.length_append]
    omega
  | case3 c rest hc ih =>
    have hrest : HoldsEscape rest := by
      rcases holdsEscape_cons h with ⟨_, _, _, hsign, hparts, -⟩ | hrest
      · exact absurd hparts (hc _ _ _ hsign)
      · exact hrest
    have hlt := ih hrest
    rw [octets, utf8_cons, List.length_append, List.length_append]
    · omega
    · exact hc
  | case4 =>
    obtain ⟨before, high, low, after, hcs, -⟩ := h
    simp at hcs

/-- A text stands for itself exactly if it holds no escape. -/
theorem octets_eq_utf8_iff : octets cs = utf8 cs ↔ ¬ HoldsEscape cs := by
  refine ⟨fun heq h => ?_, octets_of_not_holdsEscape⟩
  exact absurd (congrArg List.length heq) (Nat.ne_of_lt (length_octets_lt h))

instance : Decidable (HoldsEscape cs) :=
  decidable_of_iff (octets cs ≠ utf8 cs) ((not_congr octets_eq_utf8_iff).trans Classical.not_not)

/-- What a request for the URL asks for: the fragment of a URL is not sent to its host. -/
def resource (u : Url) :
    Option (List Char) × Option (List Char) × List UInt8 × Option (List Char) :=
  (u.scheme, u.authority, octets u.path, u.query)

end Url

end InstallerGateway
