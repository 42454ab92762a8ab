import PayloadCheck.Folder

/-!
# Files that are written

A text that is written under a path is found there afterwards, whatever stood there before. A file
takes the place of a file or of nothing, never of a folder, so every folder that the path passes
through is still there (`walk_put`). Main statement: `textAt?_of_write`.
-/

namespace PayloadCheck.Folder

open PayloadCheck.Text

/-! ## Putting a text in place -/

variable {f : Folder} {parts : List String} {text : String}

theorem lookup_filter_ne {other : List String} (h : other ≠ parts)
    (files : List (List String × String)) :
    (files.filter fun entry => entry.1 != parts).lookup other = files.lookup other := by
  induction files with
  | nil => rfl
  | cons entry rest ih =>
    obtain ⟨key, value⟩ := entry
    by_cases hkey : key = parts
    · subst hkey
      have hother : (other == key) = false := by simpa using h
      simp [List.lookup_cons, hother, ih]
    · have hkept : (key != parts) = true := by simpa using hkey
      simp only [List.filter_cons, hkept, if_true, List.lookup_cons, ih]

theorem lookup_put_self (f : Folder) (parts : List String) (text : String) :
    (f.put parts text).files.lookup parts = some text := by
  have hnone : (f.files.filter fun entry => entry.1 != parts).lookup parts = none := by
    rw [List.lookup_eq_none_iff]
    intro entry hentry
    have hne := (List.mem_filter.mp hentry).2
    simpa [bne_comm] using hne
  simp [put, List.lookup_append, hnone]

theorem lookup_put_of_ne {other : List String} (h : other ≠ parts) (f : Folder) (text : String) :
    (f.put parts text).files.lookup other = f.files.lookup other := by
  have hother : (other == parts) = false := by simpa using h
  simp only [put, List.lookup_append, lookup_filter_ne h, List.lookup_cons, hother, List.lookup_nil]
  exact Option.or_none

theorem hasFolder_put {folder : List String} (h : f.hasFolder folder = true)
    (parts : List String) (text : String) : (f.put parts text).hasFolder folder = true := by
  simp only [hasFolder, Bool.or_eq_true, List.any_eq_true] at h ⊢
  rcases h with h | ⟨entry, hentry, hlies⟩
  · exact Or.inl h
  · right
    by_cases hkey : entry.1 = parts
    · exact ⟨(parts, text), by simp [put], by rw [← hkey]; exact hlies⟩
    · exact ⟨entry, by simp [put, hentry, hkey], hlies⟩

/-! ## Walking past it -/

/-- A component that leads further, as against those that stay or go back and those that are too
long. -/
def IsName (component : String) : Prop :=
  component.utf8ByteSize ≤ componentLimit ∧ component ≠ "" ∧ component ≠ "." ∧ component ≠ ".."

instance (component : String) : Decidable (IsName component) :=
  inferInstanceAs (Decidable (_ ∧ _))

theorem step_of_isName {component : String} (h : IsName component) (f : Folder)
    (parts : List String) : f.step (.folder parts) component =
      match f.files.lookup (parts ++ [component]) with
      | some text => .ok (.file (parts ++ [component]) text)
      | none =>
        if f.hasFolder (parts ++ [component]) then .ok (.folder (parts ++ [component]))
        else .error .missing := by
  obtain ⟨hlimit, hempty, hdot, hback⟩ := h
  have hlimit : ¬ componentLimit < component.utf8ByteSize := Nat.not_lt.mpr hlimit
  have hleads : (component == "" || component == ".") = false := by simp [hempty, hdot]
  simp only [step, hlimit, hleads, beq_iff_eq, hback, if_false]
  rfl

/-- A component that is no name stays in the folder, goes back from it, or is refused, whatever the
files are. -/
theorem step_of_not_isName {component : String} (h : ¬ IsName component) (parts : List String) :
    (∀ f : Folder, f.step (.folder parts) component = .error .nameTooLong) ∨
    ∃ place, (∀ f : Folder, f.step (.folder parts) component = .ok place) ∧
      ∀ file text, place ≠ .file file text := by
  by_cases hlimit : componentLimit < component.utf8ByteSize
  · exact Or.inl fun f => by simp [step, hlimit]
  by_cases hstay : component = "" ∨ component = "."
  · have hstays : (component == "" || component == ".") = true := by simpa using hstay
    exact Or.inr ⟨.folder parts, fun f => by simp only [step, hlimit, hstays]; simp, by simp⟩
  · rw [not_or] at hstay
    obtain rfl : component = ".." := Classical.not_not.mp fun hback =>
      h ⟨Nat.not_lt.mp hlimit, hstay.1, hstay.2, hback⟩
    refine Or.inr ⟨if parts.isEmpty then .outside else .folder parts.dropLast, fun f => ?_, ?_⟩
    · simp only [step, hlimit]
      simp
    · intro file text
      cases parts <;> simp

theorem step_outside_ne_file (f : Folder) (component : String) (file : List String) (text : String) :
    f.step .outside component ≠ .ok (.file file text) := by
  simp only [step]
  split
  · simp
  · split <;> simp

/-- A place where a file may be written: there is one, or at least no folder. -/
def Free (f : Folder) (parts : List String) : Prop :=
  f.files.lookup parts = none → f.hasFolder parts = false

theorem step_put (hfree : f.Free parts) {place next : Place} {component : String}
    (h : f.step place component = .ok next) (hnext : ∀ file text, next ≠ .file file text) :
    (f.put parts text).step place component = .ok next := by
  cases place with
  | file file text => cases h
  | outside => exact h
  | folder folder =>
    by_cases hname : IsName component
    · rw [step_of_isName hname] at h ⊢
      cases hlookup : f.files.lookup (folder ++ [component]) with
      | some text =>
        simp only [hlookup, Except.ok.injEq] at h
        exact absurd h.symm (hnext _ _)
      | none =>
        cases hfolder : f.hasFolder (folder ++ [component]) with
        | false => simp [hlookup, hfolder] at h
        | true =>
          -- a folder is there, so the file is put elsewhere
          have hne : folder ++ [component] ≠ parts := by
            rintro rfl
            simp [hfree hlookup] at hfolder
          simp only [hlookup, hfolder] at h
          rw [lookup_put_of_ne hne, hlookup, hasFolder_put hfolder]
          exact h
    · rcases step_of_not_isName hname folder with hrefused | ⟨there, hthere, -⟩
      · rw [hrefused] at h
        cases h
      · rw [hthere] at h ⊢
        exact h

theorem walk_cons (f : Folder) (place : Place) (component : String) (rest : List String) :
    f.walk place (component :: rest) = f.step place component >>= fun next => f.walk next rest := by
  rw [walk, List.foldlM_cons]
  rfl

theorem walk_concat (f : Folder) (place : Place) (before : List String) (last : String) :
    f.walk place (before ++ [last]) = f.walk place before >>= fun next => f.step next last := by
  rw [walk, List.foldlM_append]
  simp [walk]

theorem walk_file {file : List String} {old : String} {components : List String} {next : Place}
    (h : f.walk (.file file old) components = .ok next) : next = .file file old := by
  cases components with
  | nil =>
    cases h
    rfl
  | cons component rest =>
    rw [walk_cons] at h
    cases h

theorem walk_put (hfree : f.Free parts) {place : Place} {components : List String}
    {folder : List String} (h : f.walk place components = .ok (.folder folder)) :
    (f.put parts text).walk place components = .ok (.folder folder) := by
  induction components generalizing place with
  | nil => exact h
  | cons component rest ih =>
    rw [walk_cons] at h ⊢
    cases hstep : f.step place component with
    | error obstacle =>
      rw [hstep] at h
      cases h
    | ok next =>
      rw [hstep] at h
      have hnext : ∀ file old, next ≠ .file file old := by
        rintro file old rfl
        cases walk_file h
      rw [step_put hfree hstep hnext]
      exact ih h

/-! ## What is written is found -/

/-- A path that leads to a folder but for its last component, which leads from there to the place of
a file. -/
structure LeadsTo (f : Folder) (path : String) (parts : List String) : Prop where
  given : path.isEmpty = false
  short : ¬ pathLimit < path.utf8ByteSize
  last : ∃ before name folder, split '/' path = before ++ [name] ∧ IsName name ∧
    f.walk (start path) before = .ok (.folder folder) ∧ parts = folder ++ [name]
  free : f.Free parts

theorem split_eq_concat (path : String) : ∃ before last, split '/' path = before ++ [last] := by
  have hne : split '/' path ≠ [] := by
    simp [split, pieces_ne_nil]
  exact ⟨_, _, (List.dropLast_concat_getLast hne).symm⟩

theorem find_of_given {path : String} (hgiven : path.isEmpty = false)
    (hshort : ¬ pathLimit < path.utf8ByteSize) {before : List String} {last : String}
    (hsplit : split '/' path = before ++ [last]) (f : Folder) :
    f.find path = f.walk (start path) before >>= fun place => f.step place last := by
  simp only [find, hgiven, hshort, hsplit, walk_concat, Bool.false_eq_true, if_false]

theorem leadsTo_of_file {path old : String} (h : f.find path = .ok (.file parts old)) :
    f.LeadsTo path parts := by
  obtain ⟨before, last, hsplit⟩ := split_eq_concat path
  have hgiven : path.isEmpty = false := by
    cases hempty : path.isEmpty with
    | false => rfl
    | true => simp [find, hempty] at h
  have hshort : ¬ pathLimit < path.utf8ByteSize := by
    intro hlong
    simp [find, hgiven, hlong] at h
  rw [find_of_given hgiven hshort hsplit] at h
  cases hbefore : f.walk (start path) before with
  | error obstacle =>
    rw [hbefore] at h
    cases h
  | ok place =>
    rw [hbefore] at h
    change f.step place last = .ok (.file parts old) at h
    cases place with
    | file file text => cases h
    | outside => exact absurd h (step_outside_ne_file f last parts old)
    | folder folder =>
      by_cases hname : IsName last
      · rw [step_of_isName hname] at h
        cases hlookup : f.files.lookup (folder ++ [last]) with
        | none =>
          rw [hlookup] at h
          cases hfolder : f.hasFolder (folder ++ [last]) <;> simp [hfolder] at h
        | some text =>
          simp only [hlookup, Except.ok.injEq, Place.file.injEq] at h
          obtain ⟨rfl, rfl⟩ := h
          refine ⟨hgiven, hshort, ⟨before, last, folder, hsplit, hname, hbefore, rfl⟩, ?_⟩
          intro hnone
          rw [hlookup] at hnone
          cases hnone
      · rcases step_of_not_isName hname folder with hrefused | ⟨there, hthere, hnot⟩
        · rw [hrefused] at h
          cases h
        · rw [hthere] at h
          exact absurd (Except.ok.inj h) (hnot _ _)

theorem leadsTo_of_missing {path last : String} {before folder : List String}
    (h : f.find path = .error .missing) (hgiven : path.isEmpty = false)
    (hsplit : split '/' path = before ++ [last])
    (hbefore : f.walk (start path) before = .ok (.folder folder)) :
    f.LeadsTo path (folder ++ [last]) := by
  have hshort : ¬ pathLimit < path.utf8ByteSize := by
    intro hlong
    simp [find, hgiven, hlong] at h
  rw [find_of_given hgiven hshort hsplit, hbefore] at h
  change f.step (.folder folder) last = .error .missing at h
  by_cases hname : IsName last
  · refine ⟨hgiven, hshort, ⟨before, last, folder, hsplit, hname, hbefore, rfl⟩, ?_⟩
    intro hnone
    cases hfolder : f.hasFolder (folder ++ [last]) with
    | false => rfl
    | true => simp [step_of_isName hname, hnone, hfolder] at h
  · rcases step_of_not_isName hname folder with hrefused | ⟨there, hthere, -⟩
    · rw [hrefused] at h
      cases h
    · rw [hthere] at h
      cases h

theorem leadsTo_of_target {path : String} (h : f.target path = .ok parts) :
    f.LeadsTo path parts := by
  unfold target at h
  split at h
  · next file old hfind =>
    cases h
    exact leadsTo_of_file hfind
  · cases h
  · next hmissing =>
    split at h
    · next folder hbefore =>
      cases hgiven : path.isEmpty with
      | true => simp [hgiven] at h
      | false =>
        obtain ⟨before, last, hsplit⟩ := split_eq_concat path
        rw [hsplit, List.dropLast_concat] at hbefore
        simp only [hgiven, hsplit, List.getLast?_concat, Option.toList_some, Bool.false_eq_true,
          if_false, Except.ok.injEq] at h
        rw [← h]
        exact leadsTo_of_missing hmissing hgiven hsplit hbefore
    · cases h
  · cases h

theorem find_put {path : String} (h : f.LeadsTo path parts) (text : String) :
    (f.put parts text).find path = .ok (.file parts text) := by
  obtain ⟨before, name, folder, hsplit, hname, hbefore, rfl⟩ := h.last
  rw [find_of_given h.given h.short hsplit, walk_put h.free hbefore]
  change (f.put (folder ++ [name]) text).step (.folder folder) name = _
  rw [step_of_isName hname, lookup_put_self]

/-- **A text that is written under a path is found there.** -/
theorem textAt?_of_write {g : Folder} {path : String} (h : f.write path text = .ok g) :
    g.textAt? path = .ok (some text) := by
  unfold write at h
  cases hnull : path.contains '\x00' with
  | true =>
    rw [hnull] at h
    cases h
  | false =>
    rw [hnull] at h
    obtain ⟨parts, htarget, h⟩ := Fault.bind_eq_ok_iff.mp h
    cases h
    simp only [textAt?, hnull, find_put (leadsTo_of_target htarget)]
    rfl

/-! ## Reading a text -/

/-- A file of the folder itself is read under its name, as it is if all its line ends are of one
kind. -/
theorem readText_of_name {f : Folder} {name text : String} (hname : IsName name)
    (hnull : name.contains '\x00' = false) (hroot : name.startsWith "/" = false)
    (hsplit : split '/' name = [name]) (hlookup : f.files.lookup [name] = some text)
    (hends : String.ofList (unifyLineEnds text.toList) = text) : f.readText name = .ok text := by
  have hgiven : name.isEmpty = false := by simpa using hname.2.1
  have hshort : ¬ pathLimit < name.utf8ByteSize :=
    Nat.not_lt.mpr (Nat.le_trans hname.1 (by decide))
  have hfind : f.find name = .ok (.file [name] text) := by
    have hsplit : split '/' name = [] ++ [name] := hsplit
    rw [find_of_given hgiven hshort hsplit, start, if_neg (by simp [hroot])]
    change f.step (.folder []) name = _
    rw [step_of_isName hname, List.nil_append, hlookup]
  simp only [readText, open_, hnull, hfind, Bool.false_eq_true, if_false, bind, Except.bind, hends]
  rfl

/-- A path is safe as it is given if it is short, without blanks at its ends and without null
characters. -/
theorem safePath_of_trimmed {path : String} (htrim : trim path = path) (hgiven : path ≠ "")
    (hnull : path.contains '\x00' = false) (hlength : path.length ≤ safePathLimit)
    (what : String) : safePath (.text path) what = .ok path := by
  have hgiven : path.isEmpty = false := by simpa using hgiven
  simp only [safePath, htrim, hgiven, hnull, Bool.false_eq_true, if_false, Nat.not_lt.mpr hlength]

/-- The name of a file of the folder itself is a safe path, and the file is read under it. -/
theorem safePath_and_readText_of_name {f : Folder} {name text : String} (htrim : trim name = name)
    (hname : IsName name) (hnull : name.contains '\x00' = false)
    (hlength : name.length ≤ safePathLimit) (hroot : name.startsWith "/" = false)
    (hsplit : split '/' name = [name]) (hlookup : f.files.lookup [name] = some text)
    (hends : String.ofList (unifyLineEnds text.toList) = text) (what : String) :
    safePath (.text name) what = .ok name ∧ f.readText name = .ok text :=
  ⟨safePath_of_trimmed htrim hname.2.1 hnull hlength what,
    readText_of_name hname hnull hroot hsplit hlookup hends⟩

end PayloadCheck.Folder
