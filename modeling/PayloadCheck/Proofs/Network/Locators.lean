import Mathlib.Data.List.TakeDrop
import PayloadCheck.Network.Url

/-!
# Locators that are refused

The reading of a locator fails for its authority alone: the part between the two slashes behind an
optional scheme and the next `/`, `?` or `#` (`NamesAuthority`). Authorities are sound with no
bracket or with an address in brackets, and without characters that turn into delimiters
(`IsSound`); a locator is read iff every authority that it names is sound (`read_isOk_iff`).
-/

namespace PayloadCheck.Network

open PayloadCheck.Text

/-! ### Cutting -/

section

variable {sep : Char} {cs before after : List Char}

theorem cutFirst_append (h : sep ∉ before) :
    cutFirst sep (before ++ sep :: after) = (before, after) := by
  rw [cutFirst, cut?_append_sep h, Option.getD_some]

theorem cutFirst_of_not_mem (h : sep ∉ cs) : cutFirst sep cs = (cs, []) := by
  rw [cutFirst, cut?_of_not_mem h, Option.getD_none]

/-- Either there is no separator, or the first one stands between the two parts. -/
theorem cutFirst_cases (sep : Char) (cs : List Char) :
    (sep ∉ cs ∧ cutFirst sep cs = (cs, [])) ∨
      ∃ before after, cs = before ++ sep :: after ∧ sep ∉ before ∧
        cutFirst sep cs = (before, after) := by
  by_cases h : sep ∈ cs
  · obtain ⟨before, after, rfl, hbefore⟩ := List.eq_append_cons_of_mem h
    exact Or.inr ⟨before, after, rfl, hbefore, cutFirst_append hbefore⟩
  · exact Or.inl ⟨h, cutFirst_of_not_mem h⟩

end

/-! ### Sound authorities -/

/-- What may stand in brackets: an address of a version to come, or one of version 6. -/
def IsBracketed (host : List Char) : Prop :=
  if host.head? = some 'v' then isFutureAddress host = true else isAddress6 host = true

/-- The place of an authority is what stands behind its last `@`. -/
def HasPlace (authority place : List Char) : Prop :=
  '@' ∉ place ∧ (authority = place ∨ ∃ user, authority = user ++ '@' :: place)

/-- The host of a place, with a port behind it or without one. A place without brackets belongs to an
authority that has them in front of its last `@`. -/
inductive HasHost : (place host : List Char) → Prop
  | closed {host : List Char} (hhost : ']' ∉ host) : HasHost ('[' :: (host ++ [']'])) host
  | closedPort {host : List Char} (hhost : ']' ∉ host) (port : List Char) :
      HasHost ('[' :: (host ++ ']' :: ':' :: port)) host
  | unclosed {host : List Char} (hhost : ']' ∉ host) : HasHost ('[' :: host) host
  | plain {host : List Char} (hplace : '[' ∉ host) (hhost : ':' ∉ host) : HasHost host host
  | plainPort {host port : List Char} (hplace : '[' ∉ host ++ ':' :: port) (hhost : ':' ∉ host) :
      HasHost (host ++ ':' :: port) host

/-- No bracket, or brackets of both kinds around an address. -/
def HasSoundBrackets (authority : List Char) : Prop :=
  ('[' ∈ authority ↔ ']' ∈ authority) ∧
    ('[' ∈ authority → ∃ place host, HasPlace authority place ∧ HasHost place host ∧
      IsBracketed host)

/-- Brackets around addresses only, and no character that turns into a delimiter. -/
def IsSound (authority : List Char) : Prop :=
  HasSoundBrackets authority ∧ ∀ c ∈ authority, hidesDelimiter c = false

theorem digits_of_isAddress4 {cs : List Char} (h : isAddress4 cs = true) :
    ∀ c ∈ cs, isAsciiDigit c = true ∨ c = '.' := by
  simp only [isAddress4, Bool.and_eq_true, List.all_eq_true] at h
  obtain ⟨-, hoctets⟩ := h
  intro c hc
  by_cases hpoint : c = '.'
  · exact Or.inr hpoint
  · have hkept : c ∈ (pieces '.' cs).flatten := by
      rw [pieces, flatten_piecesBy]
      simp [hc, hpoint]
    obtain ⟨piece, hpiece, hmem⟩ := List.mem_flatten.mp hkept
    left
    have hoctet := hoctets piece hpiece
    simp only [isOctet, Bool.and_eq_true, List.all_eq_true] at hoctet
    exact hoctet.1.1.1.2 c hmem

/-- No address is one of both versions. -/
theorem isAddress6_of_isAddress4 {cs : List Char} (h : isAddress4 cs = true) :
    isAddress6 cs = false := by
  have hcolon : ':' ∉ cs := fun hmem => absurd (digits_of_isAddress4 h _ hmem) (by decide)
  have hpercent : '%' ∉ cs := fun hmem => absurd (digits_of_isAddress4 h _ hmem) (by decide)
  simp [isAddress6, isBareAddress6, cut?_of_not_mem hpercent, pieces_of_not_mem hcolon]

theorem checkHost_eq_ok_iff (host : List Char) : checkHost host = .ok () ↔ IsBracketed host := by
  unfold checkHost IsBracketed
  by_cases hfuture : host.head? = some 'v'
  · simp only [hfuture, if_true]
    split <;> simp_all
  · simp only [hfuture, if_false]
    by_cases hfour : isAddress4 host = true
    · simp [hfour, isAddress6_of_isAddress4 hfour]
    · simp only [hfour]
      split <;> simp_all

theorem hasPlace_iff {authority place : List Char} :
    HasPlace authority place ↔ (cutLast '@' authority).2 = place := by
  -- the last sign is the first one from behind
  by_cases h : '@' ∈ authority.reverse
  · obtain ⟨after, before, hsplit, hafter⟩ := List.eq_append_cons_of_mem h
    have hauthority : authority = before.reverse ++ '@' :: after.reverse := by
      rw [← List.reverse_reverse authority, hsplit]
      simp
    have hcut : (cutLast '@' authority).2 = after.reverse := by
      rw [cutLast, hsplit, cut?_append_sep hafter]
    rw [hcut]
    constructor
    · rintro ⟨hplace, rfl | ⟨user, rfl⟩⟩
      · exact absurd (List.mem_reverse.mp h) hplace
      · have hother : cut? '@' (user ++ '@' :: place).reverse =
            some (place.reverse, user.reverse) := cut?_reverse hplace
        rw [hsplit, cut?_append_sep hafter] at hother
        cases hother
        exact List.reverse_reverse place
    · rintro rfl
      exact ⟨by simpa using hafter, Or.inr ⟨_, hauthority⟩⟩
  · have hcut : (cutLast '@' authority).2 = authority := by
      rw [cutLast, cut?_of_not_mem h]
    rw [hcut]
    constructor
    · rintro ⟨-, rfl | ⟨user, rfl⟩⟩
      · rfl
      · simp at h
    · rintro rfl
      exact ⟨by simpa using h, Or.inl rfl⟩

theorem not_hasHost_of_before {c : Char} {before bracketed host : List Char}
    (hbefore : '[' ∉ c :: before) : ¬ HasHost (c :: before ++ '[' :: bracketed) host := by
  generalize hplace : c :: before ++ '[' :: bracketed = place
  intro h
  have hopen : '[' ∈ place := by simp [← hplace]
  cases h with
  | plain hnone | plainPort hnone => exact hnone hopen
  | closed | closedPort | unclosed =>
    rw [List.cons_append, List.cons.injEq] at hplace
    exact hbefore (by simp [hplace.1])

theorem hasHost_bracketed_iff {bracketed host : List Char} :
    HasHost ('[' :: bracketed) host ↔ (cutFirst ']' bracketed).1 = host ∧
      ((cutFirst ']' bracketed).2 = [] ∨ (cutFirst ']' bracketed).2.head? = some ':') := by
  constructor
  · generalize hplace : '[' :: bracketed = place
    intro h
    cases h with
    | plain hnone | plainPort hnone => simp [← hplace] at hnone
    | closed hhost | closedPort hhost =>
      obtain rfl := (List.cons.inj hplace).2
      simp [cutFirst_append hhost]
    | unclosed hhost =>
      obtain rfl := (List.cons.inj hplace).2
      simp [cutFirst_of_not_mem hhost]
  · rcases cutFirst_cases ']' bracketed with ⟨hclose, hcut⟩ | ⟨before, after, rfl, hclose, hcut⟩
    · rw [hcut]
      rintro ⟨rfl, -⟩
      exact .unclosed hclose
    · rw [hcut]
      rintro ⟨rfl, rfl | hport⟩
      · exact .closed hclose
      · obtain ⟨port, rfl⟩ := List.head?_eq_some_iff.mp hport
        exact .closedPort hclose port

theorem hasHost_plain_iff {place host : List Char} (hnone : '[' ∉ place) :
    HasHost place host ↔ (cutFirst ':' place).1 = host := by
  constructor
  · intro h
    cases h with
    | closed | closedPort | unclosed => simp at hnone
    | plain _ hhost => rw [cutFirst_of_not_mem hhost]
    | plainPort _ hhost => rw [cutFirst_append hhost]
  · rintro rfl
    rcases cutFirst_cases ':' place with ⟨hport, hcut⟩ | ⟨host, port, rfl, hport, hcut⟩
    · rw [hcut]
      exact .plain hnone hport
    · rw [hcut]
      exact .plainPort hnone hport

theorem checkBrackets_eq_ok_iff (authority : List Char) : checkBrackets authority = .ok () ↔
    ∃ place host, HasPlace authority place ∧ HasHost place host ∧ IsBracketed host := by
  have hplace : (∃ place host, HasPlace authority place ∧ HasHost place host ∧
      IsBracketed host) ↔ ∃ host, HasHost (cutLast '@' authority).2 host ∧ IsBracketed host := by
    simp only [hasPlace_iff, exists_and_left, exists_eq_left']
  rw [hplace, checkBrackets]
  generalize (cutLast '@' authority).2 = place
  by_cases hopen : '[' ∈ place
  · obtain ⟨before, bracketed, rfl, hbefore⟩ := List.eq_append_cons_of_mem hopen
    simp only [cut?_append_sep hbefore]
    cases before with
    | cons c more =>
      -- nothing may stand in front of the bracket
      simp only [not_hasHost_of_before hbefore, false_and, exists_false]
      simp
    | nil =>
      simp only [List.nil_append, hasHost_bracketed_iff, and_assoc, exists_eq_left',
        ← checkHost_eq_ok_iff]
      generalize cutFirst ']' bracketed = parts
      obtain ⟨host, after⟩ := parts
      cases after with
      | nil => simp
      | cons c port =>
        by_cases hc : c = ':' <;> simp [hc]
  · simp only [cut?_of_not_mem hopen, hasHost_plain_iff hopen, exists_eq_left',
      ← checkHost_eq_ok_iff]

theorem checkAuthority_eq_ok_iff (authority : List Char) :
    checkAuthority authority = .ok () ↔ HasSoundBrackets authority := by
  unfold checkAuthority HasSoundBrackets
  by_cases hopen : '[' ∈ authority
  · by_cases hclose : ']' ∈ authority
    · simp [hopen, hclose, checkBrackets_eq_ok_iff]
    · simp [hopen, hclose, throw, throwThe, MonadExceptOf.throw, bind, Except.bind]
  · by_cases hclose : ']' ∈ authority
    · simp [hopen, hclose]
    · simp [hopen, hclose, pure, Except.pure]

/-! ### The authority of a locator -/

/-- The characters of a locator that are read. -/
def charsRead (text : List Char) : List Char :=
  (text.dropWhile isLeadingNoise).filter fun c => !isNoise c

/-- A scheme begins with a letter. -/
def IsScheme (name : List Char) : Prop :=
  name.head?.any isAsciiLetter = true ∧ name.all isSchemeChar = true

/-- Characters in front of which an authority ends. -/
def endsAuthority (c : Char) : Bool := c == '/' || c == '?' || c == '#'

/-- Behind an optional scheme and two slashes an authority goes up to the next character that ends
it. -/
def NamesAuthority (text authority : List Char) : Prop :=
  (∀ c ∈ authority, endsAuthority c = false) ∧
    ∃ lead rest, (lead = [] ∨ ∃ name, IsScheme name ∧ lead = name ++ [':']) ∧
      charsRead text = lead ++ '/' :: '/' :: (authority ++ rest) ∧
      ∀ c ∈ rest.head?, endsAuthority c = true

/-- What stands behind the scheme, if there is one. -/
def afterScheme (cs : List Char) : List Char :=
  match cut? ':' cs with
  | some (name, rest) =>
    if name.head?.any isAsciiLetter && name.all isSchemeChar then rest else cs
  | none => cs

/-- The authority, empty where none is named. -/
def authorityOf (text : List Char) : List Char :=
  match afterScheme (charsRead text) with
  | '/' :: '/' :: more => more.takeWhile fun c => !endsAuthority c
  | _ => []

theorem exists_checked_iff {check : Except Fault Unit} {hidden : Bool} {fault : Fault} {u : Url} :
    (∃ url, (do
      check
      if hidden then (throw fault : Except Fault Unit)
      return u) = .ok url) ↔ check = .ok () ∧ hidden = false := by
  cases check with
  | error other => simp [bind, Except.bind]
  | ok checked => cases hidden <;> simp [bind, Except.bind, throw, throwThe, MonadExceptOf.throw,
      pure, Except.pure]

theorem fst_authority (cs : List Char) :
    (match cs with
      | '/' :: '/' :: more => more.span fun c => c != '/' && c != '?' && c != '#'
      | _ => ([], cs)).1 =
    match cs with
      | '/' :: '/' :: more => more.takeWhile fun c => !endsAuthority c
      | _ => [] := by
  split
  · have hends : (fun c : Char => c != '/' && c != '?' && c != '#') =
        fun c => !endsAuthority c := by
      funext c
      simp [endsAuthority, bne, Bool.not_or]
    rw [List.span_eq_takeWhile_dropWhile, hends]
  · rfl

theorem read_isOk_iff_authorityOf (text : List Char) : (∃ url, Url.read text = .ok url) ↔
    checkAuthority (authorityOf text) = .ok () ∧
      (authorityOf text).any hidesDelimiter = false := by
  have hcongr : ∀ {a b : List Char}, a = b →
      (checkAuthority a = .ok () ∧ a.any hidesDelimiter = false ↔
        checkAuthority b = .ok () ∧ b.any hidesDelimiter = false) := by
    rintro a b rfl
    exact Iff.rfl
  unfold Url.read
  refine exists_checked_iff.trans (hcongr ?_)
  unfold authorityOf afterScheme
  rw [charsRead]
  cases cut? ':' ((text.dropWhile isLeadingNoise).filter fun c => !isNoise c) with
  | none => exact fst_authority _
  | some parts =>
    dsimp only
    by_cases hscheme : (parts.1.head?.any isAsciiLetter && parts.1.all isSchemeChar) = true
    · simp only [hscheme, if_true]
      exact fst_authority _
    · simp only [hscheme]
      exact fst_authority _

theorem afterScheme_of_scheme {name : List Char} (h : IsScheme name) (rest : List Char) :
    afterScheme (name ++ ':' :: rest) = rest := by
  have hcolon : ':' ∉ name := by
    intro hmem
    exact absurd (List.all_eq_true.mp h.2 ':' hmem) (by decide)
  rw [afterScheme, cut?_append_sep hcolon]
  simp [h.1, h.2]

theorem afterScheme_cases (cs : List Char) :
    afterScheme cs = cs ∨ ∃ name, IsScheme name ∧ cs = name ++ ':' :: afterScheme cs := by
  by_cases h : ':' ∈ cs
  · obtain ⟨name, rest, rfl, hname⟩ := List.eq_append_cons_of_mem h
    by_cases hscheme : IsScheme name
    · right
      exact ⟨name, hscheme, by rw [afterScheme_of_scheme hscheme]⟩
    · left
      rw [afterScheme, cut?_append_sep hname]
      dsimp only
      rw [if_neg]
      simpa [IsScheme] using hscheme
  · left
    rw [afterScheme, cut?_of_not_mem h]

theorem afterScheme_slashes (more : List Char) :
    afterScheme ('/' :: '/' :: more) = '/' :: '/' :: more := by
  rcases afterScheme_cases ('/' :: '/' :: more) with h | ⟨name, hscheme, h⟩
  · exact h
  · cases name with
    | nil => exact absurd hscheme.1 (by decide)
    | cons c rest =>
      rw [List.cons_append, List.cons.injEq] at h
      have hletter : isAsciiLetter c = true := hscheme.1
      rw [← h.1] at hletter
      exact absurd hletter (by decide)

theorem authorityOf_eq {text authority : List Char} (h : NamesAuthority text authority) :
    authorityOf text = authority := by
  obtain ⟨hinside, lead, rest, hlead, hchars, hrest⟩ := h
  have hafter : afterScheme (charsRead text) = '/' :: '/' :: (authority ++ rest) := by
    rw [hchars]
    rcases hlead with rfl | ⟨name, hscheme, rfl⟩
    · exact afterScheme_slashes _
    · rw [List.append_assoc]
      exact afterScheme_of_scheme hscheme _
  rw [authorityOf, hafter]
  change (authority ++ rest).takeWhile (fun c => !endsAuthority c) = authority
  rw [List.takeWhile_append_of_pos (by simpa using hinside)]
  cases rest with
  | nil => simp
  | cons c more => simp [hrest c rfl]

theorem namesAuthority_authorityOf (text : List Char) :
    authorityOf text = [] ∨ NamesAuthority text (authorityOf text) := by
  unfold authorityOf
  split
  · next more hafter =>
    right
    have hinside : ∀ c ∈ more.takeWhile fun c => !endsAuthority c, endsAuthority c = false := by
      intro c hc
      simpa using List.all_eq_true.mp List.all_takeWhile c hc
    have hrest : ∀ c ∈ (more.dropWhile fun c => !endsAuthority c).head?,
        endsAuthority c = true := by
      intro c hc
      have hfirst := List.head?_dropWhile_not (fun c => !endsAuthority c) more
      rw [hc] at hfirst
      simpa using hfirst
    have hlead : ∃ lead, (lead = [] ∨ ∃ name, IsScheme name ∧ lead = name ++ [':']) ∧
        charsRead text = lead ++ '/' :: '/' :: more := by
      rcases afterScheme_cases (charsRead text) with hall | ⟨name, hscheme, hchars⟩
      · exact ⟨[], Or.inl rfl, by rw [← hall, hafter, List.nil_append]⟩
      · exact ⟨name ++ [':'], Or.inr ⟨name, hscheme, rfl⟩, by rw [hchars, hafter]; simp⟩
    obtain ⟨lead, hlead, hchars⟩ := hlead
    refine ⟨hinside, lead, _, hlead, ?_, hrest⟩
    rw [hchars, List.takeWhile_append_dropWhile]
  · exact Or.inl rfl

theorem isSound_nil : IsSound [] := ⟨by simp [HasSoundBrackets], by simp⟩

/-- A locator is read iff every authority that it names is sound. It names at most one. -/
theorem read_isOk_iff (text : List Char) : (∃ url, Url.read text = .ok url) ↔
    ∀ authority, NamesAuthority text authority → IsSound authority := by
  have hsound : (∃ url, Url.read text = .ok url) ↔ IsSound (authorityOf text) := by
    rw [read_isOk_iff_authorityOf, checkAuthority_eq_ok_iff, IsSound, List.any_eq_false]
    simp
  rw [hsound]
  constructor
  · intro h authority hnames
    rwa [← authorityOf_eq hnames]
  · intro h
    rcases namesAuthority_authorityOf text with hnone | hnames
    · rw [hnone]
      exact isSound_nil
    · exact h _ hnames

end PayloadCheck.Network
