import PayloadCheck.Presence.Pool
import PayloadCheck.Proofs.FieldMap
import PayloadCheck.Proofs.Presence.LineReader

/-!
# The line of a pool, read back

A pool writes its settings one after the other into a line, and only the last one, by which every
session only reads, in quotes. A line of that form has no room to spare: for each setting it takes
the keyword, the sign, the value and a blank. So a reader that gets all the settings back has met no
keyword twice and has wasted nothing before the last quote, and every value without quotes was bare
(`readLine_eq_iff`). Main statement: `line_is_read_back_iff`.
-/

namespace PayloadCheck.Presence

open LineReader

variable {fields done pairs : List (String × String)} {last : String × String} {m r : LineReader}

/-! ### Lines of settings -/

/-- The text of a setting without quotes, with a blank after it. -/
def fieldText (field : String × String) : List Char :=
  field.1.toList ++ ['='] ++ (field.2.toList ++ [' '])

/-- The text of settings, the last one in quotes, up to the closing quote. -/
def openText (fields : List (String × String)) (last : String × String) : List Char :=
  fields.flatMap fieldText ++ (last.1.toList ++ ['='] ++ '\'' :: last.2.toList)

/-- In a line no character is more than it takes: a keyword, a sign, a value and a blank for each
setting, and the first quote for the blank of the last one. -/
theorem length_openText : (openText fields last).length = pairsLength (fields ++ [last]) := by
  have hfields : (fields.flatMap fieldText).length = pairsLength fields := by
    induction fields with
    | nil => rfl
    | cons field rest ih =>
      rw [List.flatMap_cons, List.length_append, ih, pairsLength_cons]
      simp [fieldText, String.length_toList]
      omega
  rw [openText, List.length_append, hfields, pairsLength_append, pairsLength_cons]
  simp [String.length_toList]
  omega

theorem foldlM_fieldText {field : String × String} (hkey : IsKeyword field.1.toList)
    (hvalue : IsBare field.2.toList) :
    (fieldText field).foldlM step ⟨.between, done⟩ = some ⟨.between, done ++ [field]⟩ := by
  rw [fieldText, foldlM_append_of (foldlM_keyword hkey), foldlM_value hvalue, String.ofList_toList,
    String.ofList_toList]

/-- Bare values are read as they stand. -/
theorem foldlM_fields (hkeys : ∀ field ∈ fields, IsKeyword field.1.toList)
    (hbare : ∀ field ∈ fields, IsBare field.2.toList) :
    (fields.flatMap fieldText).foldlM step ⟨.between, done⟩ = some ⟨.between, done ++ fields⟩ := by
  induction fields generalizing done with
  | nil => simp
  | cons field rest ih =>
    obtain ⟨hkey, hkeys⟩ := List.forall_mem_cons.mp hkeys
    obtain ⟨hvalue, hvalues⟩ := List.forall_mem_cons.mp hbare
    rw [List.flatMap_cons, foldlM_append_of (foldlM_fieldText hkey hvalue), ih hkeys hvalues,
      ← List.append_cons]

/-- What a reader without waste reads as it stands is bare. -/
theorem LineReader.Tight.isBare_of_fields {tail : List Char}
    (hkeys : ∀ field ∈ fields, IsKeyword field.1.toList)
    (h : Tight ⟨.between, done⟩ (fields.flatMap fieldText ++ tail) m)
    (hm : done ++ fields <+: m.pairs) : ∀ field ∈ fields, IsBare field.2.toList := by
  -- along the settings: a bare value is read up to its blank, and the next setting from there
  induction fields generalizing done with
  | nil => simp
  | cons field rest ih =>
    obtain ⟨hkey, hkeys⟩ := List.forall_mem_cons.mp hkeys
    have htext (more : List Char) : fieldText field ++ more =
        (field.1.toList ++ ['=']) ++ (field.2.toList ++ ' ' :: more) := by
      simp [fieldText]
    rw [List.flatMap_cons, List.append_assoc] at h
    rw [List.append_cons] at hm
    have hvalue : IsBare field.2.toList := by
      rw [htext] at h
      refine (h.after (foldlM_keyword hkey)).2.isBare ?_
      rw [String.ofList_toList, String.ofList_toList]
      exact (List.prefix_append _ _).trans hm
    have hrest := (h.after (foldlM_fieldText hkey hvalue)).2
    exact List.forall_mem_cons.mpr ⟨hvalue, ih hkeys hrest hm⟩

/-! ### The last setting -/

theorem foldlM_quoted {k v cs : List Char} (h : ∀ c ∈ cs, c ≠ '\'' ∧ c ≠ '\\') :
    cs.foldlM step ⟨.quoted k v, pairs⟩ = some ⟨.quoted k (v ++ cs), pairs⟩ := by
  induction cs generalizing v with
  | nil => simp
  | cons c rest ih =>
    obtain ⟨⟨hquote, hescape⟩, hrest⟩ := List.forall_mem_cons.mp h
    have hstep : step ⟨.quoted k v, pairs⟩ c = some ⟨.quoted k (v ++ [c]), pairs⟩ := by
      simp [step, hquote, hescape]
    rw [foldlM_cons_of hstep, ih hrest, ← List.append_cons]

/-- Up to the closing quote, a line of bare values is read as it stands. -/
theorem foldlM_openText (hkeys : ∀ field ∈ fields ++ [last], IsKeyword field.1.toList)
    (hbare : ∀ field ∈ fields, IsBare field.2.toList)
    (hlast : ∀ c ∈ last.2.toList, c ≠ '\'' ∧ c ≠ '\\') :
    (openText fields last).foldlM step start =
      some ⟨.quoted last.1.toList last.2.toList, fields⟩ := by
  obtain ⟨hfields, hkey⟩ := List.forall_mem_append.mp hkeys
  have hopened : step ⟨.beforeValue last.1.toList, fields⟩ '\'' =
      some ⟨.quoted last.1.toList [], fields⟩ := rfl
  have hlastKey := hkey last (List.mem_singleton_self last)
  rw [openText, start, foldlM_append_of (foldlM_fields hfields hbare), List.nil_append,
    foldlM_append_of (foldlM_keyword hlastKey), foldlM_cons_of hopened, foldlM_quoted hlast,
    List.nil_append]

/-- After a quote that is not part of its last value, a line is read in full only if the quote has
closed that value. -/
theorem quoted_of_finish (hstep : m.step '\'' = some r)
    (hfinish : r.finish = some (fields ++ [last])) (hlast : '\'' ∉ last.2.toList) :
    m = ⟨.quoted last.1.toList last.2.toList, fields⟩ := by
  obtain ⟨place, done⟩ := m
  obtain ⟨key, value⟩ := last
  have htaken {k v : List Char} (h : done ++ [(String.ofList k, String.ofList (v ++ ['\'']))] =
      fields ++ [(key, value)]) : False := by
    obtain ⟨-, hpair⟩ := List.append_inj' h rfl
    cases hpair
    simp at hlast
  cases place with
  | quoted k v =>
    cases hstep
    obtain ⟨rfl, hpair⟩ := List.append_inj' (Option.some.inj hfinish) rfl
    cases hpair
    rw [String.toList_ofList, String.toList_ofList]
  | bare k v | bareEscape k v =>
    cases hstep
    exact (htaken (Option.some.inj hfinish)).elim
  | _ => cases hstep <;> cases hfinish

/-! ### Lines without a repeated keyword -/

/-- An entry that is replaced is lost. -/
theorem pairsLength_insert {acc : FieldMap String} {key value : String} (hkey : key ∈ acc.keys)
    (hne : key ≠ "") :
    pairsLength (acc.insert key value) + 3 ≤ pairsLength acc + (key.length + value.length + 2) := by
  have hpos : 1 ≤ key.length := by
    rw [Nat.one_le_iff_ne_zero]
    exact mt String.length_eq_zero_iff.mp hne
  unfold FieldMap.keys at hkey
  unfold FieldMap.insert
  induction acc with
  | nil => cases hkey
  | cons entry rest ih =>
    obtain ⟨k, v⟩ := entry
    by_cases hk : k = key
    · simp only [FieldMap.alter, hk, if_true, pairsLength_cons]
      omega
    · have hrest : key ∈ rest.map Prod.fst := by simpa [Ne.symm hk] using hkey
      simp only [FieldMap.alter, hk, if_false, pairsLength_cons]
      have := ih hrest
      omega

/-- A map of pairs has all of them, or is shorter by the text of a pair. -/
theorem pairs_eq_or_lt (acc : FieldMap String) (hne : ∀ p ∈ pairs, p.1 ≠ "") :
    acc.merge pairs = acc ++ pairs ∨
      pairsLength (acc.merge pairs) + 3 ≤ pairsLength (acc ++ pairs) := by
  unfold FieldMap.merge
  induction pairs generalizing acc with
  | nil => exact Or.inl (List.append_nil acc).symm
  | cons p rest ih =>
    obtain ⟨k, v⟩ := p
    obtain ⟨hk, hrest⟩ := List.forall_mem_cons.mp hne
    simp only [List.foldl_cons]
    by_cases hmem : k ∈ acc.keys
    · have hinsert : pairsLength (acc.insert k v) + 3 ≤
          pairsLength acc + (k.length + v.length + 2) := pairsLength_insert hmem hk
      simp only [pairsLength_append, pairsLength_cons]
      rcases ih (acc.insert k v) hrest with h | h
      · rw [h]
        simp only [pairsLength_append]
        omega
      · simp only [pairsLength_append] at h
        omega
    · rw [FieldMap.insert_of_not_mem v hmem, List.append_cons acc (k, v) rest]
      exact ih _ hrest

/-- The pairs of a line are the settings that it gives, if they leave no room for a repeated one. -/
theorem pairs_of_ofList {settings : FieldMap String} (hne : ∀ key ∈ settings.keys, key ≠ "")
    (h : FieldMap.ofList pairs = settings)
    (hlength : pairsLength pairs < pairsLength settings + 3) : pairs = settings := by
  have hkeys : ∀ p ∈ pairs, p.1 ≠ "" := by
    intro p hp
    have hmem : p.1 ∈ (FieldMap.ofList pairs).keys := by
      rw [FieldMap.keys_ofList, List.mem_eraseDups]
      exact List.mem_map_of_mem hp
    exact hne p.1 (h ▸ hmem)
  have hmerge : FieldMap.merge [] pairs = settings := h
  rcases pairs_eq_or_lt [] hkeys with hall | hless
  · exact hall.symm.trans hmerge
  · rw [hmerge, List.nil_append] at hless
    omega

/-- A line of settings, the last one in quotes, is read back iff every other value is bare. -/
theorem readLine_eq_iff (hkeys : ∀ field ∈ fields ++ [last], IsKeyword field.1.toList)
    (hnodup : ((fields ++ [last]).map Prod.fst).Nodup)
    (hlast : ∀ c ∈ last.2.toList, c ≠ '\'' ∧ c ≠ '\\') :
    readLine (String.ofList (openText fields last ++ ['\''])) = some (fields ++ [last]) ↔
      ∀ field ∈ fields, IsBare field.2.toList := by
  unfold readLine
  rw [String.toList_ofList]
  constructor
  · intro h
    obtain ⟨r, hr, h⟩ := Option.bind_eq_some_iff.mp h
    obtain ⟨pairs, hfinish, h⟩ := Option.bind_eq_some_iff.mp h
    have hread := spent_le_of_foldlM hr
    rw [List.foldlM_append] at hr
    obtain ⟨m, hm, hquote⟩ := Option.bind_eq_some_iff.mp hr
    have hstep : m.step '\'' = some r := by simpa using hquote
    have hpairs : pairs = fields ++ [last] := by
      refine pairs_of_ofList ?_ (Option.some.inj h) ?_
      · intro key hkey
        obtain ⟨field, hfield, rfl⟩ := List.mem_map.mp hkey
        exact fun hempty => (hkeys field hfield).1 (by rw [hempty]; rfl)
      · have hover := pairsLength_finish hfinish
        simp only [start, spent_mk, Place.spent, pairsLength_nil, List.length_append,
          length_openText, List.length_singleton] at hread
        omega
    have hplace := quoted_of_finish hstep (hpairs ▸ hfinish) fun hmem => (hlast _ hmem).1 rfl
    -- the last quote closes the last value, and before it nothing is wasted
    have htight : Tight start (openText fields last) m := by
      refine ⟨hm, ?_⟩
      rw [hplace, length_openText, pairsLength_append, pairsLength_cons]
      simp [start, Place.spent, String.length_toList]
    exact htight.isBare_of_fields (List.forall_mem_append.mp hkeys).1 (by simp [hplace])
  · intro hbare
    rw [foldlM_append_of (foldlM_openText hkeys hbare hlast)]
    have hclosed : (close ⟨.quoted last.1.toList last.2.toList, fields⟩ last.1.toList
        last.2.toList).pairs = fields ++ [last] := by
      simp [close]
    exact congrArg some ((congrArg FieldMap.ofList hclosed).trans (FieldMap.ofList_of_nodup hnodup))

/-! ### The line of a pool -/

namespace Settings

/-- The settings that the line of a pool writes without quotes. -/
def bareFields (s : Settings) : List (String × String) :=
  [("host", s.host), ("port", toString s.port), ("dbname", s.database), ("user", s.user),
    ("password", s.password), ("connect_timeout", toString s.seconds)]

/-- The setting by which every session only reads. -/
def readOnlyField : String × String := ("options", "-c default_transaction_read_only=on")

theorem ofList_fieldText (k v : String) :
    String.ofList (fieldText (k, v)) = k ++ "=" ++ (v ++ " ") := by
  simp only [fieldText, String.ofList_append, String.ofList_toList]

theorem line_eq (s : Settings) :
    s.line = String.ofList (openText s.bareFields readOnlyField ++ ['\'']) := by
  have hlast : String.ofList (readOnlyField.1.toList ++ ['='] ++ '\'' :: readOnlyField.2.toList ++
      ['\'']) = "options='-c default_transaction_read_only=on'" := rfl
  rw [openText, List.append_assoc, String.ofList_append, hlast]
  simp only [bareFields, List.flatMap_cons, List.flatMap_nil, List.append_nil, String.ofList_append,
    ofList_fieldText]
  have hhost : "host=" = "host" ++ "=" := rfl
  have hport : " port=" = " " ++ ("port" ++ "=") := rfl
  have hdatabase : " dbname=" = " " ++ ("dbname" ++ "=") := rfl
  have huser : " user=" = " " ++ ("user" ++ "=") := rfl
  have hpassword : " password=" = " " ++ ("password" ++ "=") := rfl
  have hseconds : " connect_timeout=" = " " ++ ("connect_timeout" ++ "=") := rfl
  have hoptions : " options='-c default_transaction_read_only=on'" =
    " " ++ "options='-c default_transaction_read_only=on'" := rfl
  unfold line
  rw [hhost, hport, hdatabase, huser, hpassword, hseconds, hoptions]
  simp only [String.append_assoc]
  rfl

theorem isBareChar_of_isDigit {c : Char} (h : c.isDigit = true) : IsBareChar c ∧ c ≠ '\'' := by
  have hdigit : 48 ≤ c.toNat ∧ c.toNat ≤ 57 := Char.isDigit_iff_toNat.mp h
  have hblank : Text.isAsciiBlank c = false := by
    simp [Text.isAsciiBlank]
    omega
  refine ⟨⟨hblank, ?_⟩, ?_⟩
  · rintro rfl
    simp at hdigit
  · rintro rfl
    simp at hdigit

theorem isBare_repr (n : Nat) : IsBare n.repr.toList := by
  rw [Nat.repr_eq_ofList_toDigits, String.toList_ofList]
  have hdigits : ∀ c ∈ Nat.toDigits 10 n, IsBareChar c ∧ c ≠ '\'' := fun c hc =>
    isBareChar_of_isDigit (Nat.isDigit_of_mem_toDigits (by decide) (by decide) hc)
  refine ⟨Nat.toDigits_ne_nil, ?_, fun c hc => (hdigits c hc).1⟩
  intro hhead
  exact (hdigits _ (List.mem_of_mem_head? hhead)).2 rfl

theorem isBare_toString (i : Int) : IsBare (toString i).toList := by
  rw [Int.toString_eq_repr, Int.repr_eq_if]
  split
  · exact isBare_repr _
  · obtain ⟨-, -, hchars⟩ := isBare_repr (-i).toNat
    have hsign : IsBareChar '-' := by simp [IsBareChar, Text.isAsciiBlank]
    rw [String.toList_append]
    exact ⟨by simp, by simp, List.forall_mem_cons.mpr ⟨hsign, hchars⟩⟩

theorem isKeyword_of_mem (s : Settings) :
    ∀ field ∈ s.bareFields ++ [readOnlyField], IsKeyword field.1.toList := by
  simp [bareFields, readOnlyField, IsKeyword, Text.isAsciiBlank]

/-- The server library reads the settings back from the line of a pool iff the texts that it writes
without quotes are bare. -/
theorem readLine_line_iff (s : Settings) :
    readLine s.line = some (s.bareFields ++ [readOnlyField]) ↔
      IsBare s.host.toList ∧ IsBare s.database.toList ∧ IsBare s.user.toList ∧
        IsBare s.password.toList := by
  have hlast : ∀ c ∈ readOnlyField.2.toList, c ≠ '\'' ∧ c ≠ '\\' := by
    simp [readOnlyField]
  rw [line_eq, readLine_eq_iff s.isKeyword_of_mem (by simp [bareFields, readOnlyField]) hlast]
  simp only [bareFields, List.forall_mem_cons, isBare_toString, List.not_mem_nil, false_implies,
    implies_true, true_and, and_true]

theorem ofGiven_eq_ok {given : GivenSettings} {env : Environment} {s : Settings}
    (h : ofGiven given env = .ok s) :
    s.host = env.textOr given.host "DB_HOST" "localhost" ∧
      env.portOr given.port "DB_PORT" "5432" = .ok s.port ∧
      s.database = env.textOr given.database "DB_NAME" "fieldrules" ∧
      s.user = env.textOr given.user "DB_USER" "fieldrules" ∧
      s.password = env.textOr given.password "DB_PASSWORD" "" ∧
      given.timeout.truncated = .ok s.seconds := by
  unfold ofGiven at h
  obtain ⟨port, hport, h⟩ := Fault.bind_eq_ok_iff.mp h
  dsimp only at h
  split at h
  · obtain ⟨_, -, h⟩ := Fault.bind_eq_ok_iff.mp h
    obtain ⟨seconds, hseconds, h⟩ := Fault.bind_eq_ok_iff.mp h
    obtain ⟨_, -, h⟩ := Fault.bind_eq_ok_iff.mp h
    cases h
    exact ⟨rfl, hport, rfl, rfl, rfl, hseconds⟩
  · cases h

/-- **Which settings the server library reads back.** A pool takes its settings from what is given
and from the environment. Read back from the line of the pool are these settings and the option by
which every session only reads, and nothing else, iff the host, the database, the user and the
password are bare. -/
theorem line_is_read_back_iff {given : GivenSettings} {env : Environment} {s : Settings}
    (h : ofGiven given env = .ok s) :
    let host := env.textOr given.host "DB_HOST" "localhost"
    let database := env.textOr given.database "DB_NAME" "fieldrules"
    let user := env.textOr given.user "DB_USER" "fieldrules"
    let password := env.textOr given.password "DB_PASSWORD" ""
    env.portOr given.port "DB_PORT" "5432" = .ok s.port ∧
      given.timeout.truncated = .ok s.seconds ∧
      (readLine s.line = some
          [("host", host), ("port", toString s.port), ("dbname", database), ("user", user),
            ("password", password), ("connect_timeout", toString s.seconds),
            ("options", "-c default_transaction_read_only=on")] ↔
        IsBare host.toList ∧ IsBare database.toList ∧ IsBare user.toList ∧
          IsBare password.toList) := by
  intro host database user password
  obtain ⟨hhost, hport, hdatabase, huser, hpassword, hseconds⟩ := ofGiven_eq_ok h
  have hread := s.readLine_line_iff
  rw [bareFields, hhost, hdatabase, huser, hpassword] at hread
  exact ⟨hport, hseconds, hread⟩

theorem line_is_read_back_with_quote_and_sign :
    ∃ s, ofGiven { password := some "a'b=c" }
        [("DB_HOST", "db.internal"), ("DB_PORT", "6543")] = .ok s ∧
      readLine s.line = some
        [("host", "db.internal"), ("port", "6543"), ("dbname", "fieldrules"),
          ("user", "fieldrules"), ("password", "a'b=c"), ("connect_timeout", "30"),
          ("options", "-c default_transaction_read_only=on")] := by
  have hok : (ofGiven { password := some "a'b=c" }
      [("DB_HOST", "db.internal"), ("DB_PORT", "6543")]).toBool = true := by decide +kernel
  cases h : ofGiven { password := some "a'b=c" }
      [("DB_HOST", "db.internal"), ("DB_PORT", "6543")] with
  | error fault =>
    rw [h] at hok
    cases hok
  | ok s =>
    obtain ⟨hport, hseconds, hread⟩ := line_is_read_back_iff h
    have hport : s.port = 6543 := Except.ok.inj (hport.symm.trans (by decide +kernel))
    have hseconds : s.seconds = 30 := Except.ok.inj (hseconds.symm.trans (by decide +kernel))
    rw [hport, hseconds] at hread
    exact ⟨s, rfl, hread.mpr (by decide)⟩

/-- A password with a blank is not read back: what follows the blank is read as another setting. -/
theorem line_with_blank_is_not_read_back :
    ¬ ∀ (given : GivenSettings) (env : Environment) (s : Settings), ofGiven given env = .ok s →
      readLine s.line = some (s.bareFields ++ [readOnlyField]) := by
  intro hall
  have hok : (ofGiven { password := some "x host=evil" } []).toBool = true := by decide +kernel
  cases h : ofGiven { password := some "x host=evil" } [] with
  | error fault =>
    rw [h] at hok
    cases hok
  | ok s =>
    obtain ⟨-, -, -, -, hpassword, -⟩ := ofGiven_eq_ok h
    have hbare := (s.readLine_line_iff.mp (hall _ _ s h)).2.2.2
    rw [hpassword] at hbare
    exact absurd hbare (by decide)

end Settings

end PayloadCheck.Presence
