import Mathlib.Data.List.Infix
import PayloadCheck.Proofs.Check.Pass
import PayloadCheck.Proofs.Check.Refusals
import PayloadCheck.Proofs.Network.Locators

/-!
# Verdicts on locators

The rule `url` gives a verdict on every value. `active_url` has none on a text whose authority is
not sound: the locator is read before anything is caught, and only the name lookup behind it may
fail. On every other value it gives a verdict, however the lookup ends
(`locator_rules_give_verdicts`).
-/

namespace PayloadCheck.Check

open PayloadCheck.Network PayloadCheck.Presence PayloadCheck.Rule PayloadCheck.Value

/-- The ways in which a name lookup ends: with addresses, refused by the system, or with a host that
cannot be encoded. -/
inductive Lookup where
  | found (addresses : List (List Char))
  | refused (detail : String)
  | unencodable (detail : String)

/-- A lookup that fails is caught, and leads nowhere. -/
def Lookup.leads : Lookup → Bool
  | .found addresses => decide (0 < addresses.length)
  | .refused _ | .unencodable _ => false

/-- A text without `://` is the locator of an authority. -/
def locatorOf (cs : List Char) : List Char :=
  if [':', '/', '/'] <:+: cs then cs else '/' :: '/' :: cs

/-- A text that names an authority which is not sound. -/
def LeadsAstray (v : Value) : Prop :=
  ∃ s authority, v = .text s ∧ NamesAuthority (locatorOf s.toList) authority ∧ ¬ IsSound authority

theorem hasSchemeMark_iff (cs : List Char) :
    hasSchemeMark cs = true ↔ [':', '/', '/'] <:+: cs := by
  induction cs using hasSchemeMark.induct with
  | case1 rest => simp [hasSchemeMark, List.infix_cons_iff]
  | case2 c rest hmark ih =>
    have hprefix : ¬ [':', '/', '/'] <+: c :: rest := by
      rintro ⟨more, h⟩
      obtain ⟨rfl, rfl⟩ := List.cons.inj h
      exact hmark more rfl rfl
    rw [hasSchemeMark, ih, List.infix_cons_iff, or_iff_right hprefix]
    exact hmark
  | case3 => simp [hasSchemeMark]

theorem locatorOf_of_schemeMark {cs : List Char} (h : hasSchemeMark cs = true) :
    locatorOf cs = cs := if_pos ((hasSchemeMark_iff cs).mp h)

theorem hostOf_isOk_iff (cs : List Char) : (∃ host, hostOf cs = .ok host) ↔
    ∀ authority, NamesAuthority (locatorOf cs) authority → IsSound authority := by
  rw [← read_isOk_iff, hostOf]
  simp only [hasSchemeMark_iff]
  rw [← locatorOf]
  cases Url.read (locatorOf cs) <;> simp [bind, Except.bind, pure, Except.pure]

section

variable {resolves : List Char → Bool} {e : Engine} {rule : Spec}

theorem Engine.dispatch_url (hcatalogue : e.catalogue = builtinFor resolves)
    (hkey : rule.key = Rule.key "url") (verifier : Option Verifier) (field : String) (v : Value)
    (j : Journal) : ∃ b, e.dispatch verifier field v rule j = (.ok b, j) := by
  obtain ⟨decide, hmem, hdecide⟩ : ∃ decide,
      Check.deciding "url" 0 decide ∈ patternChecks resolves ∧
        ∀ c field v ps, ∃ b, decide c field v ps = .ok b := by
    refine ⟨_, List.mem_of_getElem? (i := 2) rfl, fun c field v ps => ?_⟩
    cases v <;> exact ⟨_, rfl⟩
  obtain ⟨b, hb⟩ := hdecide _ field v rule.parameters
  refine ⟨b, ?_⟩
  rw [Engine.dispatch_builtin hcatalogue (patternChecks_subset resolves hmem) hkey (Nat.zero_le _)]
  exact Prod.ext hb rfl

theorem Engine.dispatch_activeUrl (hcatalogue : e.catalogue = builtinFor resolves)
    (hkey : rule.key = Rule.key "active_url") (verifier : Option Verifier) (field : String)
    (v : Value) (j : Journal) :
    ∃ verdict, e.dispatch verifier field v rule j = (verdict, j) ∧
      (∀ s, v = .text s → verdict = (hostOf s.toList).map fun host =>
        !host.isEmpty && resolves host) ∧
      ((∀ s, v ≠ .text s) → verdict = .ok false) := by
  have hmem : activeUrlCheck resolves ∈ builtinChecks resolves :=
    patternChecks_subset resolves (List.mem_of_getElem? (i := 3) rfl)
  refine ⟨_, Engine.dispatch_builtin hcatalogue hmem hkey (Nat.zero_le _) verifier field v j, ?_, ?_⟩
  · rintro s rfl
    dsimp only
    cases hostOf s.toList <;> rfl
  · intro hv
    cases v with
    | text s => exact absurd rfl (hv s)
    | _ => rfl

theorem Engine.dispatch_activeUrl_isOk_iff (hcatalogue : e.catalogue = builtinFor resolves)
    (hkey : rule.key = Rule.key "active_url") (verifier : Option Verifier) (field : String)
    (v : Value) (j : Journal) :
    (∃ b, e.dispatch verifier field v rule j = (.ok b, j)) ↔ ¬ LeadsAstray v := by
  obtain ⟨verdict, hdispatch, htext, hother⟩ :=
    Engine.dispatch_activeUrl hcatalogue hkey verifier field v j
  simp only [hdispatch, Prod.mk.injEq, and_true]
  by_cases hv : ∃ s, v = .text s
  · obtain ⟨s, rfl⟩ := hv
    have hok : (∃ b, verdict = .ok b) ↔ ∃ host, hostOf s.toList = .ok host := by
      rw [htext s rfl]
      cases hostOf s.toList <;> simp [Except.map]
    rw [hok, hostOf_isOk_iff]
    constructor
    · rintro hsound ⟨t, authority, ht, hnames, hunsound⟩
      cases ht
      exact hunsound (hsound authority hnames)
    · intro hastray authority hnames
      by_contra hunsound
      exact hastray ⟨s, authority, rfl, hnames, hunsound⟩
  · have hnone : ∀ s, v ≠ .text s := fun s hs => hv ⟨s, hs⟩
    refine iff_of_true ⟨false, hother hnone⟩ ?_
    rintro ⟨s, -, hs, -⟩
    exact hnone s hs

end

/-- **Verdicts on locators.** However a name lookup ends, `url` gives a verdict on every value, and
    `active_url` gives one iff the value is no text that names an authority which is not sound. On
    such a text it ends with the fault of the reading, which is none of the configuration. -/
theorem locator_rules_give_verdicts {lookup : List Char → Lookup} {e : Engine}
    (hcatalogue : e.catalogue = builtinFor fun host => (lookup host).leads) {url active : Spec}
    (hurl : url.key = Rule.key "url") (hactive : active.key = Rule.key "active_url")
    (verifier : Option Verifier) (field : String) (v : Value) (j : Journal) :
    (∃ b, e.dispatch verifier field v url j = (.ok b, j)) ∧
    ((∃ b, e.dispatch verifier field v active j = (.ok b, j)) ↔ ¬ LeadsAstray v) ∧
    (LeadsAstray v →
      ∃ detail, e.dispatch verifier field v active j = (.error (.badValue detail), j)) := by
  have hdecides := Engine.dispatch_activeUrl_isOk_iff hcatalogue hactive verifier field v j
  refine ⟨Engine.dispatch_url hcatalogue hurl verifier field v j, hdecides, ?_⟩
  intro hastray
  obtain ⟨verdict, hdispatch, htext, -⟩ :=
    Engine.dispatch_activeUrl hcatalogue hactive verifier field v j
  obtain ⟨s, -, rfl, -⟩ := id hastray
  have hverdict := htext s rfl
  cases hread : hostOf s.toList with
  | ok host =>
    rw [hread] at hverdict
    exact absurd hastray (hdecides.mp ⟨_, by rw [hdispatch, hverdict]; rfl⟩)
  | error fault =>
    obtain ⟨detail, rfl⟩ := raises_hostOf s.toList fault hread
    rw [hread] at hverdict
    exact ⟨detail, by rw [hdispatch, hverdict]; rfl⟩

/-- A bracket that is never closed. -/
theorem leadsAstray_of_open_bracket : LeadsAstray (.text "http://[::1") := by
  refine ⟨"http://[::1", "[::1".toList, rfl, ?_, ?_⟩
  · have hscheme : IsScheme "http".toList := ⟨by decide, by decide⟩
    have hlead : "http:".toList = "http".toList ++ [':'] := by decide
    rw [locatorOf_of_schemeMark (by decide)]
    exact ⟨by simp [endsAuthority], _, [], Or.inr ⟨_, hscheme, hlead⟩, by decide, by simp⟩
  · intro hsound
    exact absurd hsound.1.1 (by decide)

/-- An address between brackets is looked up, with a port behind it; without the closing bracket
`url` still decides, and `active_url` does not. -/
theorem locator_rules_give_verdicts_bracket :
    let lookup := fun host => if isLiteralHost host then Lookup.found [host] else .refused "unknown"
    let e : Engine := ⟨"adhoc", [], builtinFor fun host => (lookup host).leads, .ofPayload [],
      ⟨[], []⟩, default⟩
    let answer := fun name s => (e.dispatch none "site" (.text s) ⟨name, []⟩ {}).1
    (∃ b, answer "active_url" "http://[::1]:80/" = .ok b) ∧
      (∃ b, answer "url" "http://[::1" = .ok b) ∧
      ∃ detail, answer "active_url" "http://[::1" = .error (.badValue detail) := by
  intro lookup
  -- kept closed, for its keys are computed by the tables of all letters
  generalize hcatalogue : (builtinFor fun host => (lookup host).leads) = catalogue
  intro e answer
  have hurl : Spec.key ⟨"url", []⟩ = Rule.key "url" := rfl
  have hactive : Spec.key ⟨"active_url", []⟩ = Rule.key "active_url" := rfl
  have hverdicts := fun s => locator_rules_give_verdicts (e := e) hcatalogue.symm hurl hactive none
    "site" (.text s) {}
  have hhost : HasHost ('[' :: ("::1".toList ++ ']' :: ':' :: "80".toList)) "::1".toList :=
    .closedPort (by decide) _
  have haddress : IsBracketed "::1".toList := by
    rw [IsBracketed, if_neg (by decide)]
    decide
  have hsound : ¬ LeadsAstray (.text "http://[::1]:80/") := by
    rintro ⟨s, authority, hs, hnames, hunsound⟩
    cases hs
    rw [locatorOf_of_schemeMark (by decide)] at hnames
    obtain rfl := authorityOf_eq hnames
    have hplain : (authorityOf "http://[::1]:80/".toList).any hidesDelimiter = false := by decide
    refine hunsound ⟨⟨by decide, fun _ => ?_⟩,
      fun c hc => Bool.eq_false_iff.mpr (List.any_eq_false.mp hplain c hc)⟩
    exact ⟨_, _, ⟨by decide, Or.inl (by decide)⟩, hhost, haddress⟩
  obtain ⟨b, hb⟩ := (hverdicts "http://[::1]:80/").2.1.mpr hsound
  obtain ⟨⟨b', hb'⟩, -, hfault⟩ := hverdicts "http://[::1"
  obtain ⟨detail, hdetail⟩ := hfault leadsAstray_of_open_bracket
  exact ⟨⟨b, congrArg Prod.fst hb⟩, ⟨b', congrArg Prod.fst hb'⟩, detail, congrArg Prod.fst hdetail⟩

/-- Over a bracket that is never closed `active_url` gives no verdict. -/
theorem active_url_of_open_bracket : ¬ ∀ (e : Engine) (v : Value), e.catalogue = builtin →
    ∃ b, e.dispatch none "site" v ⟨"active_url", []⟩ {} = (.ok b, {}) := by
  -- kept closed, for its keys are computed by the tables of all letters
  generalize hcatalogue : builtin = catalogue
  intro hdecides
  let e : Engine := ⟨"adhoc", [], catalogue, .ofPayload [], ⟨[], []⟩, default⟩
  have hkey : Spec.key ⟨"active_url", []⟩ = Rule.key "active_url" := rfl
  have hiff := Engine.dispatch_activeUrl_isOk_iff (e := e) hcatalogue.symm hkey none "site"
    (.text "http://[::1") {}
  exact hiff.mp (hdecides e (.text "http://[::1") rfl) leadsAstray_of_open_bracket

end PayloadCheck.Check
