import InstallerGateway.Gateway.Client
import InstallerGateway.Pattern.Reader
import InstallerGateway.Proofs.Key.Directory
import InstallerGateway.Proofs.Key.Validity
import InstallerGateway.Proofs.Pattern.Literal
import InstallerGateway.Proofs.World.Acting
import InstallerGateway.Settings.Basic

/-!
# The keys that everybody may read

The allow list that holds if no other is set opens what lies under `static/`, and manifests and
installers that lie directly in `desktop/`, to everybody.
-/

namespace InstallerGateway.Access

open Pattern

/-- The kinds of installers that anybody may get, besides `dmg`. -/
def installerKinds : List (List Char) := ["zip".toList, "exe".toList, "deb".toList]

/-- A dash or an underscore. -/
def separator : Pattern := .char ⟨[.between 0x2D 0x2D, .between 0x5F 0x5F], false, false⟩

/-- The patterns of the allow list that holds if no other is set. -/
def publicPatterns : List Pattern := [
  .seq (.anchor .textStart) (word "static/".toList),
  .seq (.anchor .textStart) (literal "desktop/".toList
    (.seq segment (literal ".yml".toList (.anchor .lastLineEnd)))),
  .seq (.anchor .textStart) (literal "desktop/".toList
    (.seq segment (.seq separator (.seq segment (.seq (letter '.')
      (.seq (oneOf "dmg".toList installerKinds)
        (.seq (optional (word ".blockmap".toList)) (.anchor .lastLineEnd))))))))]

theorem parse_defaultAllowList :
    Settings.defaultAllowList.mapM Pattern.parse = .ok publicPatterns := by
  decide +kernel

variable {s t : Spot} {key : String}

/-! ## The keys that the patterns match -/

/-- The name of a manifest, of an installer, or of what is kept beside an installer. -/
inductive IsPublicName : String → Prop
  | manifest {x : String} (hx : x ≠ "") : IsPublicName (x ++ ".yml")
  | installer {x dash y kind more : String} (hx : x ≠ "") (hdash : dash ∈ ["-", "_"]) (hy : y ≠ "")
      (hkind : kind ∈ ["dmg", "zip", "exe", "deb"]) (hmore : more ∈ ["", ".blockmap"]) :
      IsPublicName (x ++ dash ++ y ++ "." ++ kind ++ more)

/-- The key lies under `static/`, or it is a public name directly in `desktop/`, after which a line
feed may stand. -/
def IsPublicKey (key : String) : Prop :=
  "static/".toList <+: key.toList ∨ ∃ name, IsPublicName name ∧ '/' ∉ name.toList ∧
    (key = "desktop/" ++ name ∨ key = "desktop/" ++ name ++ "\n")

theorem passes_of_separator (h : Leads separator s t) :
    ∃ dash ∈ ["-", "_"], s.Passes dash.toList t := by
  obtain ⟨c, hf, hc⟩ := h
  have hn : c.toNat = 0x2D ∨ c.toNat = 0x5F := by
    simp [CharSet.holds, CharSet.itemHolds] at hc
    omega
  rcases hn with hn | hn
  · obtain rfl : c = '-' := Char.toNat_inj.mp hn
    exact ⟨"-", by decide, Spot.passes_of_forward? hf⟩
  · obtain rfl : c = '_' := Char.toNat_inj.mp hn
    exact ⟨"_", by decide, Spot.passes_of_forward? hf⟩

theorem leads_separator {dash : String} {before rest : List Char} {groups : List (Nat × List Char)}
    (h : dash ∈ ["-", "_"]) : Leads separator ⟨before, dash.toList ++ rest, groups⟩
      ⟨dash.toList.reverse ++ before, rest, groups⟩ := by
  have hcases : dash = "-" ∨ dash = "_" := by simpa using h
  rcases hcases with rfl | rfl
  · exact leads_char (by decide)
  · exact leads_char (by decide)

theorem leads_blockmap {more : String} {before rest : List Char} {groups : List (Nat × List Char)}
    (h : more ∈ ["", ".blockmap"]) :
    Leads (optional (word ".blockmap".toList)) ⟨before, more.toList ++ rest, groups⟩
      ⟨more.toList.reverse ++ before, rest, groups⟩ := by
  have hcases : more = "" ∨ more = ".blockmap" := by simpa using h
  rcases hcases with rfl | rfl
  · exact leads_optional (.inl rfl)
  · exact leads_optional (.inr (leads_word _))

theorem passes_of_blockmap (h : Leads (optional (word ".blockmap".toList)) s t) :
    ∃ more ∈ ["", ".blockmap"], s.Passes more.toList t := by
  rcases passes_of_optional h with rfl | hword
  · exact ⟨"", by decide, rfl, rfl⟩
  · exact ⟨".blockmap", by decide, passes_of_word hword⟩

/-- Where a pattern ends with the end of the last line, the key ends, up to a line feed. -/
theorem key_of_lastLineEnd {name : String} (h : Leads (.anchor .lastLineEnd) s t)
    (hkey : key.toList = "desktop/".toList ++ (name.toList ++ s.after)) :
    key = "desktop/" ++ name ∨ key = "desktop/" ++ name ++ "\n" := by
  rcases after_of_lastLineEnd h with he | he
  · left
    apply String.toList_inj.mp
    simp [hkey, he]
  · right
    apply String.toList_inj.mp
    simp [hkey, he]

/-- A key in which one of the patterns is found has one of the forms. -/
theorem isPublicKey_of_isPublic (h : isPublic publicPatterns key = true) : IsPublicKey key := by
  simp only [isPublic, publicPatterns, List.any_cons, List.any_nil, Bool.or_false,
    Bool.or_eq_true] at h
  rcases h with h | h | h
  · obtain ⟨t, hw⟩ := leads_of_foundIn_textStart h
    exact .inl ⟨t.after, (passes_of_word hw).1.symm⟩
  · right
    obtain ⟨t, hl⟩ := leads_of_foundIn_textStart h
    obtain ⟨a, ⟨hdir, -⟩, b, hseg, hrest⟩ := passes_of_literal hl
    obtain ⟨x, hx, hfree, ⟨hname, -⟩⟩ := passes_of_segment hseg
    obtain ⟨e, ⟨hyml, -⟩, hend⟩ := passes_of_literal hrest
    have hpublic : IsPublicName (String.ofList x ++ ".yml") := .manifest (by simpa using hx)
    refine ⟨_, hpublic, by simp [hfree], key_of_lastLineEnd hend ?_⟩
    have hstart : key.toList = "desktop/".toList ++ a.after := hdir
    rw [hstart, hname, hyml]
    simp
  · right
    obtain ⟨t, hl⟩ := leads_of_foundIn_textStart h
    obtain ⟨a, ⟨hdir, -⟩, b, hseg, c, hsep, d, hseg', e, hpoint, f, hkind, g, hmore, hend⟩ :=
      passes_of_literal hl
    obtain ⟨x, hx, hxfree, ⟨hxname, -⟩⟩ := passes_of_segment hseg
    obtain ⟨dash, hdash, ⟨hdashname, -⟩⟩ := passes_of_separator hsep
    obtain ⟨y, hy, hyfree, ⟨hyname, -⟩⟩ := passes_of_segment hseg'
    obtain ⟨hpointname, -⟩ := passes_of_letter hpoint
    obtain ⟨kind, hkind, ⟨hkindname, -⟩⟩ := passes_of_oneOf hkind
    obtain ⟨more, hmore, ⟨hmorename, -⟩⟩ := passes_of_blockmap hmore
    have hkinds : ∀ v ∈ "dmg".toList :: installerKinds, '/' ∉ v ∧
        String.ofList v ∈ ["dmg", "zip", "exe", "deb"] := by decide
    have hdashes : ∀ dash ∈ ["-", "_"], '/' ∉ dash.toList := by decide
    have hmores : ∀ more ∈ ["", ".blockmap"], '/' ∉ more.toList := by decide
    have hpublic : IsPublicName (String.ofList x ++ dash ++ String.ofList y ++ "." ++
        String.ofList kind ++ more) :=
      .installer (by simpa using hx) hdash (by simpa using hy) (hkinds kind hkind).2 hmore
    have hfree : '/' ∉ (String.ofList x ++ dash ++ String.ofList y ++ "." ++
        String.ofList kind ++ more).toList := by
      simp [hxfree, hdashes dash hdash, hyfree, (hkinds kind hkind).1, hmores more hmore]
    refine ⟨_, hpublic, hfree, key_of_lastLineEnd hend ?_⟩
    have hstart : key.toList = "desktop/".toList ++ a.after := hdir
    rw [hstart, hxname, hdashname, hyname, hpointname, hkindname, hmorename]
    simp

/-- In a key of one of the forms one of the patterns is found. -/
theorem isPublic_of_isPublicKey (h : IsPublicKey key) : isPublic publicPatterns key = true := by
  simp only [isPublic, publicPatterns, List.any_cons, List.any_nil, Bool.or_false,
    Bool.or_eq_true]
  rcases h with ⟨rest, hstatic⟩ | ⟨name, hname, hfree, hkey⟩
  · left
    refine (foundIn_textStart_iff (by decide)).mpr ?_
    rw [← hstatic]
    exact ⟨_, leads_word _⟩
  · obtain ⟨rest, htext, hend⟩ : ∃ rest, key.toList = "desktop/".toList ++ (name.toList ++ rest) ∧
        (rest = [] ∨ rest = ['\n']) := by
      rcases hkey with rfl | rfl
      · exact ⟨[], by simp, .inl rfl⟩
      · exact ⟨['\n'], by simp, .inr rfl⟩
    right
    cases hname with
    | @manifest x hx =>
      left
      refine (foundIn_textStart_iff (by decide)).mpr ?_
      have hxfree : '/' ∉ x.toList := fun hmem => hfree (by simp [hmem])
      rw [htext, String.toList_append, List.append_assoc]
      exact ⟨_, leads_literal _ ⟨_, leads_segment (by simpa using hx) hxfree,
        leads_literal _ (leads_lastLineEnd hend)⟩⟩
    | @installer x dash y kind more hx hdash hy hkind hmore =>
      right
      refine (foundIn_textStart_iff (by decide)).mpr ?_
      have hxfree : '/' ∉ x.toList := fun hmem => hfree (by simp [hmem])
      have hyfree : '/' ∉ y.toList := fun hmem => hfree (by simp [hmem])
      have hkinds : ∀ kind ∈ ["dmg", "zip", "exe", "deb"],
          kind.toList ∈ "dmg".toList :: installerKinds := by decide
      have hparts : key.toList = "desktop/".toList ++ (x.toList ++ (dash.toList ++ (y.toList ++
          ('.' :: (kind.toList ++ (more.toList ++ rest)))))) := by
        rw [htext]
        simp
      rw [hparts]
      exact ⟨_, leads_literal _ ⟨_, leads_segment (by simpa using hx) hxfree, _,
        leads_separator hdash, _, leads_segment (by simpa using hy) hyfree, _, leads_letter '.', _,
        leads_oneOf (hkinds kind hkind), _, leads_blockmap hmore, leads_lastLineEnd hend⟩⟩

theorem isPublic_iff : isPublic publicPatterns key = true ↔ IsPublicKey key :=
  ⟨isPublicKey_of_isPublic, isPublic_of_isPublicKey⟩

/-- A key that everybody may read lies under `static/` or directly in `desktop/`. -/
theorem directory_of_isPublic (h : isPublic publicPatterns key = true) :
    "static/".toList <+: key.toList ∨ (KeyDescriptor.parse key).directory = "desktop" := by
  rcases isPublicKey_of_isPublic h with h | ⟨name, -, hfree, hkey⟩
  · exact .inl h
  · right
    have hbreak : '/' ∉ (name ++ "\n").toList := by simp [hfree]
    rcases hkey with rfl | rfl
    · exact KeyDescriptor.parse_directory_of_slash hfree rfl
    · exact KeyDescriptor.parse_directory_of_slash hbreak (String.append_assoc)

/-! ## What can be read without a credential -/

/-- The extensions of manifests, of installers, and of what is kept beside installers. -/
def publicExtensions : List String := ["yml", "dmg", "zip", "exe", "deb", "blockmap"]

/-- A public name ends with one of the extensions. -/
theorem IsPublicName.extension {name : String} (h : IsPublicName name) :
    ∃ start, ∃ extension ∈ publicExtensions, name = start ++ "." ++ extension := by
  cases h with
  | @manifest x => exact ⟨x, "yml", by decide, by simp [String.append_assoc]⟩
  | @installer x dash y kind more _ _ _ hkind hmore =>
    have hmore' : more = "" ∨ more = ".blockmap" := by simpa using hmore
    have hkinds : ∀ kind ∈ ["dmg", "zip", "exe", "deb"], kind ∈ publicExtensions := by decide
    rcases hmore' with rfl | rfl
    · exact ⟨x ++ dash ++ y, kind, hkinds kind hkind, by simp⟩
    · exact ⟨x ++ dash ++ y ++ "." ++ kind, "blockmap", by decide,
        by simp [String.append_assoc]⟩

/-- Among safe keys, the forms need no care for line feeds. -/
theorem isPublicKey_iff_of_isSafe (h : Key.IsSafe key) :
    IsPublicKey key ↔ "static/".toList <+: key.toList ∨
      ∃ name, key = "desktop/" ++ name ∧ '/' ∉ name.toList ∧ IsPublicName name := by
  unfold IsPublicKey
  refine or_congr_right (exists_congr fun name => ?_)
  constructor
  · rintro ⟨hname, hfree, rfl | rfl⟩
    · exact ⟨rfl, hfree, hname⟩
    · exact absurd (h.noControl '\n' (by simp)).1 (by decide)
  · rintro ⟨rfl, hfree, hname⟩
    exact ⟨hname, hfree, .inl rfl⟩

/-- Under the allow list that holds if no other is set, a request without the right credential may
read a usable key exactly if the key lies under `static/` or is a public name directly in
`desktop/`. A key of the second kind has the extension of a manifest, an installer or what is kept
beside one. -/
theorem isAuthorized_of_default {allowList : List Pattern} {headers : Headers} {secret : String}
    (hallow : Settings.defaultAllowList.mapM Pattern.parse = .ok allowList)
    (hkey : Key.validate key = .ok key) (hcredential : hasCredential headers secret = false) :
    (isAuthorized "GET" key (hasCredential headers secret) allowList = true ↔
      "static/".toList <+: key.toList ∨
        ∃ name, key = "desktop/" ++ name ∧ '/' ∉ name.toList ∧ IsPublicName name) ∧
    (isAuthorized "GET" key (hasCredential headers secret) allowList = true →
      ¬ "static/".toList <+: key.toList →
        (KeyDescriptor.parse key).directory = "desktop" ∧
          (KeyDescriptor.parse key).extension ∈ publicExtensions) := by
  obtain rfl : allowList = publicPatterns :=
    (Except.ok.inj (parse_defaultAllowList.symm.trans hallow)).symm
  have hsafe : Key.IsSafe key := (Key.validate_eq_ok_iff.mp hkey).2
  have hread : isAuthorized "GET" key (hasCredential headers secret) publicPatterns =
      isPublic publicPatterns key := by
    rw [hcredential]
    rfl
  rw [hread, isPublic_iff, isPublicKey_iff_of_isSafe hsafe]
  refine ⟨Iff.rfl, ?_⟩
  rintro (hstatic | ⟨name, hdesktop, hfree, hname⟩) hnot
  · exact absurd hstatic hnot
  · obtain ⟨start, extension, hextension, hpoint⟩ := hname.extension
    have hplain : ∀ extension ∈ publicExtensions, '.' ∉ extension.toList := by decide
    have hplace : key = "desktop" ++ "/" ++ name := hdesktop
    have hfound := KeyDescriptor.parse_extension_of_slash hfree hplace hpoint
      (hplain extension hextension)
    exact ⟨KeyDescriptor.parse_directory_of_slash hfree hplace, hfound ▸ hextension⟩

/-- Without the secret, what is kept beside an installer can be read, and an archive in another
directory cannot. -/
theorem isAuthorized_beside_installer :
    isAuthorized "GET" "desktop/app-1.2_x64.dmg.blockmap"
      (hasCredential [("x-custom-auth-key", "guess")] "secret") publicPatterns = true ∧
    isAuthorized "GET" "desktop/old/app-1.2_x64.zip"
      (hasCredential [("x-custom-auth-key", "guess")] "secret") publicPatterns = false := by
  have hwrong : hasCredential [("x-custom-auth-key", "guess")] "secret" = false := by decide
  refine ⟨?beside, ?below⟩
  case beside =>
    refine (isAuthorized_of_default parse_defaultAllowList (by decide) hwrong).1.mpr (.inr ?_)
    exact ⟨"app-1.2_x64.dmg.blockmap", by decide, by decide,
      @IsPublicName.installer "app" "-" "1.2_x64" "dmg" ".blockmap" (by decide) (by decide)
        (by decide) (by decide) (by decide)⟩
  case below =>
    rw [← Bool.not_eq_true]
    intro h
    have hdirectory := ((isAuthorized_of_default parse_defaultAllowList (by decide) hwrong).2 h
      (by decide)).1
    exact absurd hdirectory (by decide)

end InstallerGateway.Access
