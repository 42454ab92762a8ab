import PayloadCheck.Command.Run
import PayloadCheck.Proofs.Value.Faults

/-!
# What reading may raise

A rule set, a payload and the settings of a pool are read before any store is asked. What they
raise is a fault of the configuration or one that reaches the library from outside; none of it is a
fault of the store. Once a configuration is there as a map, what is wrong with its sections is
handled (`raises_ofSections`).
-/

namespace PayloadCheck

/-- A fault that a check answers with the exit code for what is declared wrongly. -/
def IsHandled (fault : Fault) : Prop :=
  fault.isConfiguration = true ∨ Command.isBadInput fault = true

theorem IsHandled.notOfStore {fault : Fault} (h : IsHandled fault) : NotOfStore fault := by
  cases fault <;> simp_all [IsHandled, NotOfStore, Fault.isConfiguration, Fault.isVerifier,
    Command.isBadInput]

theorem IsBadValue.isHandled {fault : Fault} (h : IsBadValue fault) : IsHandled fault := by
  obtain ⟨detail, rfl⟩ := h
  exact Or.inr rfl

theorem Raises.handled_of_value {α : Type} {step : Except Fault α}
    (h : Raises (· = Value.tooManyDigits) step) : Raises IsHandled step := by
  refine h.mono ?_
  rintro fault rfl
  exact Value.isBadValue_tooManyDigits.isHandled

/-! ## Files -/

namespace Folder

theorem obstacleFault_fromOutside (path : String) (obstacle : Obstacle) :
    FromOutside (obstacleFault path obstacle) := by
  cases obstacle <;> rfl

theorem raises_exists? (f : Folder) (path : String) : Raises FromOutside (f.exists? path) := by
  unfold exists?
  split
  · exact .ok _
  · split
    · exact .ok _
    · exact .error rfl
    · exact .ok _

theorem raises_textAt? (f : Folder) (path : String) : Raises FromOutside (f.textAt? path) := by
  unfold textAt?
  split
  · exact .ok _
  · split
    · exact .ok _
    · exact .error rfl
    · exact .ok _

theorem raises_open_ (f : Folder) (path : String) : Raises FromOutside (f.open_ path) := by
  unfold open_
  split
  · exact .error rfl
  · split
    · exact .ok _
    · exact .error rfl
    · exact .error (obstacleFault_fromOutside _ _)

theorem raises_readText (f : Folder) (path : String) : Raises FromOutside (f.readText path) :=
  (raises_open_ f path).bind fun _ => .ok _

theorem raises_upload (f : Folder) (path : String) (mediaType clientName : Option String) :
    Raises FromOutside (f.upload path mediaType clientName) := by
  refine (raises_textAt? f _).bind fun text => ?_
  split <;> exact .ok _

end Folder

theorem raises_safePath (v : Value) (what : String) : Raises FromOutside (safePath v what) := by
  unfold safePath
  split
  · exact .ite (.error rfl) (.ite (.error rfl) (.ite (.error rfl) (.ite (.error rfl) (.ok _))))
  · exact .error rfl

/-! ## Rule sets -/

namespace Rule

open PayloadCheck.Text

theorem raises_parameterTexts (parameters : List Value) :
    Raises IsHandled (Builder.parameterTexts parameters) := by
  induction parameters with
  | nil => exact .ok _
  | cons v rest ih =>
    exact (Value.raises_plain v).handled_of_value.bind fun _ => ih.bind fun _ => .ok _

theorem raises_specOf (rule : Value) (parameters : List Value) :
    Raises IsHandled (Builder.specOf rule parameters) := by
  refine (Value.raises_plain rule).handled_of_value.bind fun _ =>
    (raises_parameterTexts parameters).bind fun _ => ?_
  split
  · exact .error (Or.inr rfl)
  · exact .ok _

theorem raises_readConfigRule (field : String) (v : Value) :
    Raises IsHandled (readConfigRule field v) := by
  unfold readConfigRule
  split
  · exact .ok _
  · split
    · exact .error (Or.inl rfl)
    · exact (raises_specOf _ _).map
  · exact (Value.raises_shown _).handled_of_value.bind fun _ => .error (Or.inl rfl)

theorem raises_readConfigRules (field : String) (v : Value) :
    Raises IsHandled (readConfigRules field v) := by
  unfold readConfigRules
  split
  · exact .ok _
  · exact (Raises.mapM (raises_readConfigRule field) _).bind fun _ => .ok _
  · exact .error (Or.inl rfl)

theorem raises_readConfigSection (part : Option Value) :
    Raises IsHandled (readConfigSection part) := by
  unfold readConfigSection
  split
  · refine Raises.bind (Raises.mapM ?_ _) fun _ => .ok _
    rintro ⟨k, v⟩
    exact (Value.raises_plain k).handled_of_value.bind fun field =>
      (raises_readConfigRules field v).bind fun _ => .ok _
  · exact .error (Or.inl rfl)

theorem raises_readConfigTexts (part : Option Value) : Raises IsHandled (readConfigTexts part) := by
  unfold readConfigTexts
  split
  · exact .ok _
  · refine .ite (.ok _) ?_
    split
    · refine Raises.bind (Raises.mapM ?_ _) fun _ => .ok _
      rintro ⟨k, v⟩
      exact (Value.raises_plain k).handled_of_value.bind fun _ =>
        (Value.raises_plain v).handled_of_value.bind fun _ => .ok _
    · exact .error (Or.inl rfl)

theorem raises_readConfigName (part : Option Value) (default : String) :
    Raises IsHandled (readConfigName part default) := by
  unfold readConfigName
  split
  · exact .ite (Value.raises_plain _).handled_of_value (.ok _)
  · exact .ok _

theorem raises_ofSections (entries : List (Value × Value)) (defaultName : String) :
    Raises IsHandled (RuleSet.ofSections entries defaultName) := by
  refine (raises_readConfigSection _).bind fun rules => (raises_readConfigName _ _).bind fun name =>
    (raises_readConfigTexts _).bind fun messages => (raises_readConfigTexts _).bind fun names => ?_
  cases RuleSet.ofParts name rules messages names with
  | error fault => exact .error (Or.inl rfl)
  | ok s => exact .ok _

theorem raises_readConfig (path text : String) : Raises NotOfStore (readConfig path text) := by
  unfold readConfig
  split
  · exact .ite (.ok _) (.error rfl)
  · exact .error rfl
  · next found _ => exact .error (FromOutside.notOfStore found.outside)

theorem raises_ofConfig (config : Value) (defaultName : String) :
    Raises NotOfStore (RuleSet.ofConfig config defaultName) := by
  unfold RuleSet.ofConfig
  split
  · exact (raises_ofSections _ _).mono fun _ => IsHandled.notOfStore
  · exact .error rfl

theorem raises_load (folder : Folder) (path : String) :
    Raises NotOfStore (RuleSet.load folder path) := by
  refine (Folder.raises_exists? _ _).notOfStore.bind fun found => ?_
  dsimp only
  split
  · exact Raises.bind (.error rfl) fun _ => (Folder.raises_readText _ _).notOfStore.bind fun _ =>
      (raises_readConfig _ _).bind fun _ => (raises_ofConfig _ _).bind fun _ => .ok _
  · exact (Folder.raises_readText _ _).notOfStore.bind fun _ =>
      (raises_readConfig _ _).bind fun _ => (raises_ofConfig _ _).bind fun _ => .ok _

end Rule

/-! ## Payloads and settings -/

namespace Command

theorem raises_readField (folder : Folder) (v : Value) :
    Raises FromOutside (readField folder v) := by
  unfold readField
  split
  · exact (Folder.raises_upload _ _ _ _).map
  · exact .error rfl
  · exact .ok _

theorem raises_readFields (folder : Folder) (entries : List (Value × Value)) :
    Raises FromOutside (readFields folder entries) := by
  fun_induction readFields folder entries with
  | case1 => exact .ok _
  | case2 name v rest ih =>
    exact (raises_readField folder v).bind fun _ => ih.bind fun _ => .ok _
  | case3 entry rest h ih => exact ih

theorem raises_readPayloadText (folder : Folder) (text : String) :
    Raises NotOfStore (readPayloadText folder text) := by
  unfold readPayloadText
  split
  · exact (raises_readFields _ _).notOfStore
  · exact .error rfl
  · exact .error rfl
  · next found _ => exact .error (FromOutside.notOfStore found.outside)

theorem raises_readPayload (folder : Folder) (input path : String) :
    Raises NotOfStore (readPayload folder input path) := by
  unfold readPayload
  split
  · exact raises_readPayloadText folder input
  · exact (raises_safePath _ _).notOfStore.bind fun _ =>
      (Folder.raises_readText _ _).notOfStore.bind fun _ => raises_readPayloadText _ _

end Command

namespace Presence

theorem raises_portOr (env : Environment) (given : Option Int) (name usual : String) :
    Raises FromOutside (env.portOr given name usual) := by
  have hnumber : Raises FromOutside (env.numberOr name usual) := fun _ => Value.integerOf_fault
  unfold Environment.portOr
  split
  · exact .ite hnumber (.ok _)
  · exact hnumber

theorem raises_ofGiven (given : GivenSettings) (env : Environment) :
    Raises FromOutside (Settings.ofGiven given env) := by
  have hwritten (i : Int) : Raises FromOutside (Value.intText? i) :=
    (Value.raises_intText? i).mono fun _ hfault => hfault ▸ rfl
  refine (raises_portOr _ _ _ _).bind fun port => ?_
  dsimp only
  split
  · refine (hwritten port).bind fun _ => ?_
    exact Raises.bind (fun _ => Number.truncated_fault) fun seconds =>
      (hwritten seconds).bind fun _ => .ok _
  · exact .error rfl

end Presence

end PayloadCheck
