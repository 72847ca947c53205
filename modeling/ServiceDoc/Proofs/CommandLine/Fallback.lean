import Mathlib
import ServiceDoc.CommandLine.Run
/-!
# Values from the environment

A value that is assigned by the first argument stands for one in the environment: the rest of the
arguments finds it as it would find that one, so the two runs are the same (`run_assigned`). The
value stays what it is unless another argument assigns one, and such an argument begins like the
switch (`Switch.stem`).
-/

namespace ServiceDoc.CommandLine

/-! ## Arguments that are a switch -/

namespace Switch

/-- What everything begins with that stands for a switch. -/
def stem : Switch → List Char
  | host => "--ho".toList
  | basePath => "--b".toList
  | noPage => "--n".toList
  | _ => "-".toList

theorem mem_spellings_of_ofSpelling? {text : String} {s : Switch}
    (h : ofSpelling? text = some s) : (text, s) ∈ spellings := by
  rw [ofSpelling?, List.lookup_eq_some_iff] at h
  obtain ⟨before, after, hspellings, -⟩ := h
  rw [hspellings]
  exact List.mem_append_right before (.head after)

theorem stem_prefix_of_mem_spellings {e : String × Switch} (h : e ∈ spellings) :
    e.2.stem <+: e.1.toList := by
  have hall : ∀ e ∈ spellings, e.2.stem <+: e.1.toList := by decide
  exact hall e h

/-- No spelling contains an equals sign. -/
theorem ofSpelling?_eq_none_of_mem {text : String} (h : '=' ∈ text.toList) :
    ofSpelling? text = none := by
  have hall : ∀ e ∈ spellings, '=' ∉ e.1.toList := by decide
  cases hs : ofSpelling? text with
  | none => rfl
  | some s => exact absurd h (hall _ (mem_spellings_of_ofSpelling? hs))

/-- What can be completed in one way only begins like the switch. -/
theorem stem_prefix_of_completions {name spelling : String} {s : Switch}
    (h : completions name = [(spelling, s)]) : s.stem <+: name.toList := by
  have hall : ∀ e ∈ spellings, ∀ cs ∈ e.1.toList.inits,
      completions (String.ofList cs) = [e] → e.2.stem <+: cs := by decide
  have hmem : (spelling, s) ∈ completions name := by
    rw [h]
    exact .head []
  obtain ⟨hspelling, hname⟩ := List.mem_filter.1 hmem
  rw [← String.ofList_toList (s := name)] at h
  exact hall _ hspelling _ ((List.mem_inits _ _).2 (List.isPrefixOf_iff_prefix.1 hname)) h

end Switch

theorem splitAssigned_prefix (text : String) :
    (splitAssigned text).1.toList <+: text.toList := by
  rw [splitAssigned, List.span_eq_takeWhile_dropWhile]
  cases text.toList.dropWhile (· ≠ '=') with
  | nil => exact List.prefix_rfl
  | cons _ value =>
      dsimp only
      rw [String.toList_ofList]
      exact List.takeWhile_prefix _

/-- A text is cut at its first equals sign. -/
theorem splitAssigned_append {name : String} (hname : '=' ∉ name.toList) (value : String) :
    splitAssigned (name ++ "=" ++ value) = (name, .assigned value.toList) := by
  have hall : ∀ c ∈ name.toList, decide (c ≠ '=') = true := by
    intro c hc
    exact decide_eq_true fun heq => hname (heq ▸ hc)
  have htake : (name.toList ++ '=' :: value.toList).takeWhile (· ≠ '=') = name.toList := by
    rw [List.takeWhile_append_of_pos hall]
    simp
  have hdrop : (name.toList ++ '=' :: value.toList).dropWhile (· ≠ '=') =
      '=' :: value.toList := by
    rw [List.dropWhile_append_of_pos hall]
    simp
  have htext : (name ++ "=" ++ value).toList = name.toList ++ '=' :: value.toList := by
    simp
  rw [splitAssigned, List.span_eq_takeWhile_dropWhile, htext, htake, hdrop]
  simp

namespace Argument

/-- A value that is assigned to a spelling is attached to its switch. -/
theorem ofText_assigned {spelling : String} {s : Switch} (h : (spelling, s) ∈ Switch.spellings)
    (value : String) :
    ofText (spelling ++ "=" ++ value) =
      .ok (.switch s (isShort spelling) (.assigned value.toList)) := by
  have hall : ∀ e ∈ Switch.spellings, Switch.ofSpelling? e.1 = some e.2 ∧ '=' ∉ e.1.toList ∧
      e.1.toList.head? = some '-' ∧ e.1.toList.length ≠ 1 := by
    decide
  obtain ⟨hofSpelling, hequals, hhead, hlength⟩ := hall _ h
  have hwhole : Switch.ofSpelling? (spelling ++ "=" ++ value) = none :=
    Switch.ofSpelling?_eq_none_of_mem (by simp)
  obtain ⟨c, r, htext⟩ : ∃ c r, (spelling ++ "=" ++ value).toList = '-' :: c :: r := by
    match hspelling : spelling.toList with
    | [] => simp [hspelling] at hhead
    | [d] => simp [hspelling] at hlength
    | d :: c :: r => simp_all
  rw [ofText, htext]
  dsimp only
  rw [hwhole, splitAssigned_append hequals]
  dsimp only
  rw [if_neg (by simp), hofSpelling]
  rfl

/-- What stands for a switch begins like it. -/
theorem stem_prefix_of_ofText {text : String} {s : Switch} {short : Bool} {attached : Attachment}
    (h : ofText text = .ok (.switch s short attached)) : s.stem <+: text.toList := by
  have hspelling : ∀ {name : String}, Switch.ofSpelling? name = some s → s.stem <+: name.toList :=
    fun hname => Switch.stem_prefix_of_mem_spellings (Switch.mem_spellings_of_ofSpelling? hname)
  have hcut := splitAssigned_prefix text
  unfold ofText at h
  split at h
  · next c r htext =>
    split at h
    · next hwhole =>
      cases h
      exact hspelling hwhole
    · cases hsplit : splitAssigned text with
      | mk name value =>
          rw [hsplit] at h hcut
          dsimp only at h hcut
          split at h
          · next hname =>
            cases h
            split at hname
            · cases hname
            · exact (hspelling hname).trans hcut
          · split at h
            · split at h
              · rw [noSwitch] at h
                split at h <;> cases h
              · next hone =>
                cases h
                exact (Switch.stem_prefix_of_completions hone).trans hcut
              · cases h
            · split at h
              · next hshort =>
                cases h
                refine (hspelling hshort).trans ?_
                rw [htext, String.toList_ofList]
                exact ⟨r, rfl⟩
              · rw [noSwitch] at h
                split at h <;> cases h
  · cases h

/-- An argument that assigns nothing to a switch. -/
def IsOther (s : Switch) : Argument → Prop
  | switch s' _ _ => s' ≠ s
  | _ => True

theorem isOther_of_ofTexts {s : Switch} {texts : List String} {arguments : List Argument}
    (h : ofTexts texts = .ok arguments) (hstem : ∀ text ∈ texts, ¬ s.stem <+: text.toList) :
    ∀ a ∈ arguments, a.IsOther s := by
  induction texts generalizing arguments with
  | nil =>
      cases h
      exact nofun
  | cons text texts ih =>
      rw [List.forall_mem_cons] at hstem
      rw [ofTexts] at h
      split at h
      · cases h
        rw [List.forall_mem_cons]
        exact ⟨trivial, by simp [IsOther]⟩
      · split at h
        · cases h
        · next a ha =>
          split at h
          · cases h
          · next as has =>
            cases h
            rw [List.forall_mem_cons]
            refine ⟨?_, ih has hstem.2⟩
            cases a with
            | switch s' short attached =>
                rintro rfl
                exact hstem.1 (stem_prefix_of_ofText ha)
            | operand text => trivial
            | unknown text => trivial
            | separator => trivial

end Argument

/-! ## The value of an option -/

/-- The value that settings have for a switch, for those switches whose value may come from the
environment as well. -/
def Settings.option (settings : Settings) : Switch → Option String
  | .host => settings.host
  | .basePath => settings.basePath
  | _ => none

/-- The switch that a group ends with, if that takes a value. -/
def GroupEnd.switch? : GroupEnd → Option Switch
  | value s _ => some s
  | awaiting s => some s
  | _ => none

/-- The only short switch that takes a value is the one for the output. -/
theorem eq_output_of_short {c : Char} {s : Switch}
    (h : Switch.ofSpelling? (String.ofList ['-', c]) = some s) (hvalue : s.takesValue) :
    s = .output := by
  have hall : ∀ e ∈ Switch.spellings, e.1.toList.length = 2 → e.2.takesValue → e.2 = .output := by
    decide
  exact hall _ (Switch.mem_spellings_of_ofSpelling? h) (by simp) hvalue

/-- What holds behind a short switch holds whatever stands before it. -/
theorem takesValue_and_of_short {c : Char} {s t s' : Switch}
    (ht : Switch.ofSpelling? (String.ofList ['-', c]) = some t)
    (h : s'.takesValue ∧ (s' = t ∨ s' = .output)) : s'.takesValue ∧ (s' = s ∨ s' = .output) := by
  obtain ⟨hvalue, rfl | houtput⟩ := h
  · exact ⟨hvalue, .inr (eq_output_of_short ht hvalue)⟩
  · exact ⟨hvalue, .inr houtput⟩

/-- So a group assigns a value to its first switch or to the output. -/
theorem switch?_of_readGroup {s s' : Switch} {assigned : Bool} {text : List Char}
    {before : List Switch} {last : GroupEnd} (h : readGroup s assigned text = .ok (before, last))
    (hlast : last.switch? = some s') : s'.takesValue ∧ (s' = s ∨ s' = .output) := by
  fun_induction readGroup s assigned text generalizing before with
  | case1 s assigned text hvalue =>
      cases h
      cases hlast
      exact ⟨hvalue, .inl rfl⟩
  | case2 | case3 => cases h
  | case4 | case6 =>
      cases h
      cases hlast
  | case5 s assigned hvalue c hplain t ht htakes =>
      cases h
      cases hlast
      exact takesValue_and_of_short ht ⟨htakes, .inl rfl⟩
  | case7 s assigned hvalue c hplain t ht r ih =>
      cases hgroup : readGroup t true r with
      | error e =>
          rw [hgroup] at h
          cases h
      | ok rest =>
          rw [hgroup] at h
          cases h
          exact takesValue_and_of_short ht (ih hgroup)
  | case8 s assigned hvalue c hplain t ht d r hd ih =>
      cases hgroup : readGroup t false (d :: r) with
      | error e =>
          rw [hgroup] at h
          cases h
      | ok rest =>
          rw [hgroup] at h
          cases h
          exact takesValue_and_of_short ht (ih hgroup)

theorem switch?_of_readSwitch {s s' : Switch} {short : Bool} {attached : Attachment}
    {before : List Switch} {last : GroupEnd}
    (h : readSwitch s short attached = .ok (before, last)) (hlast : last.switch? = some s') :
    s' = s ∨ s' = .output := by
  cases attached with
  | nothing =>
      rw [readSwitch] at h
      split at h
      · cases h
        cases hlast
        exact .inl rfl
      · cases h
        cases hlast
  | direct text => exact (switch?_of_readGroup h hlast).2
  | assigned text =>
      rw [readSwitch] at h
      split at h
      · exact (switch?_of_readGroup h hlast).2
      · cases h

/-- Another switch does not assign a value to this one. -/
theorem ne_of_readSwitch {s s' t : Switch} {short : Bool} {attached : Attachment}
    {before : List Switch} {last : GroupEnd} (hs : s ≠ .output) (ht : t ≠ s)
    (h : readSwitch t short attached = .ok (before, last)) (hlast : last.switch? = some s') :
    s' ≠ s := by
  rintro rfl
  rcases switch?_of_readSwitch h hlast with heq | heq
  · exact ht heq.symm
  · exact hs heq

namespace Progress

variable {p q : Progress} {s : Switch}

/-- Operands that follow a switch come late, whatever it asks for. -/
theorem settings_of_taken (p : Progress) :
    (if p.slot = .free then p else { p with slot := .taken }).settings = p.settings := by
  split <;> rfl

theorem option_apply {t : Switch} (h : p.apply t = .ok q) (s : Switch) :
    q.settings.option s = p.settings.option s := by
  cases t with
  | help => cases h
  | noPage | verbose =>
      cases h
      cases s <;> simp only [Settings.option, settings_of_taken]
  | host | basePath | output =>
      cases h
      rw [settings_of_taken]

theorem option_applyAll {ts : List Switch} (h : p.applyAll ts = .ok q) (s : Switch) :
    q.settings.option s = p.settings.option s := by
  induction ts generalizing p with
  | nil =>
      cases h
      rfl
  | cons t ts ih =>
      rw [applyAll] at h
      cases happly : p.apply t with
      | error e =>
          rw [happly] at h
          cases h
      | ok u =>
          rw [happly] at h
          exact (ih h).trans (option_apply happly s)

theorem option_applyValue {t : Switch} (ht : t ≠ s) (p : Progress) (value : String) :
    (p.applyValue t value).settings.option s = p.settings.option s := by
  cases t <;> cases s <;>
    first
    | exact absurd rfl ht
    | simp only [applyValue, Settings.option, settings_of_taken]

@[simp]
theorem option_addExtra (p : Progress) (text : String) (s : Switch) :
    (p.addExtra text).settings.option s = p.settings.option s := rfl

@[simp]
theorem option_addOperand (p : Progress) (text : String) (s : Switch) :
    (p.addOperand text).settings.option s = p.settings.option s := by
  rw [addOperand]
  split
  · cases s <;> rfl
  · rfl

@[simp]
theorem option_addSeparator (p : Progress) (s : Switch) :
    p.addSeparator.settings.option s = p.settings.option s := by
  rw [addSeparator]
  split
  · rfl
  · split <;> rfl

end Progress

/-- Arguments that assign nothing to an option leave its value as it is. -/
theorem option_readArguments {p q : Progress} {arguments : List Argument} {s : Switch}
    (hs : s ≠ .output) (hother : ∀ a ∈ arguments, a.IsOther s)
    (h : readArguments p arguments = .ok q) : q.settings.option s = p.settings.option s := by
  fun_induction readArguments p arguments with
  | case1 =>
      cases h
      rfl
  | case2 p text r ih => simpa using ih (List.forall_mem_cons.1 hother).2 h
  | case3 p r ih => simpa using ih (List.forall_mem_cons.1 hother).2 h
  | case4 p text r ih => simpa using ih (List.forall_mem_cons.1 hother).2 h
  | case5 | case6 | case8 | case9 | case11 | case13 => cases h
  | case7 p t short attached before t' hread value r u hbefore ih =>
      obtain ⟨ht, hr⟩ := List.forall_mem_cons.1 hother
      have ht' := ne_of_readSwitch hs ht hread rfl
      exact (ih (List.forall_mem_cons.1 hr).2 h).trans
        ((Progress.option_applyValue ht' u value).trans (Progress.option_applyAll hbefore s))
  | case10 p t short attached r before t' text hread u hbefore ih =>
      obtain ⟨ht, hr⟩ := List.forall_mem_cons.1 hother
      have ht' := ne_of_readSwitch hs ht hread rfl
      exact (ih hr h).trans
        ((Progress.option_applyValue ht' u _).trans (Progress.option_applyAll hbefore s))
  | case12 p t short attached r before text hread u hbefore ih =>
      exact (ih (List.forall_mem_cons.1 hother).2 h).trans (Progress.option_applyAll hbefore s)
  | case14 p t short attached r before hread u hbefore ih =>
      exact (ih (List.forall_mem_cons.1 hother).2 h).trans (Progress.option_applyAll hbefore s)

/-! ## Assigned values -/

/-- The environment with a value for an option. -/
def Environment.withOption (environment : Environment) (s : Switch) (value : String) :
    Environment :=
  match s with
  | .host => { environment with host := some value }
  | .basePath => { environment with basePath := some value }
  | _ => environment

theorem readArguments_assigned {s : Switch} (hs : s.takesValue) (p : Progress) (short : Bool)
    (value : String) (r : List Argument) :
    readArguments p (.switch s short (.assigned value.toList) :: r) =
      readArguments (p.applyValue s value) r := by
  have hread : readSwitch s short (.assigned value.toList) =
      .ok ([], .value s value.toList) := by
    rw [readSwitch, hs, Bool.or_true, if_pos rfl, readGroup.eq_def, if_pos hs]
  rw [readArguments.eq_def]
  dsimp only
  rw [hread]
  dsimp only [Progress.applyAll]
  rw [String.ofList_toList]

section Option

variable {spelling : String} {s : Switch}

/-- Before any argument, an option has its value from the environment. -/
theorem applyValue_settings (hs : s = .host ∨ s = .basePath) (environment : Environment)
    (value : String) :
    Progress.applyValue { settings := environment.settings } s value =
      { settings := (environment.withOption s value).settings } := by
  rcases hs with rfl | rfl <;> rfl

theorem option_withOption (hs : s = .host ∨ s = .basePath) (environment : Environment)
    (value : String) :
    (environment.withOption s value).settings.option s = some value := by
  rcases hs with rfl | rfl <;> rfl

/-- A value that the first argument assigns is read as one from the environment. -/
theorem readSettings_assigned (h : (spelling, s) ∈ Switch.spellings)
    (hs : s = .host ∨ s = .basePath) (value : String) (rest : List String)
    (environment : Environment) :
    readSettings ((spelling ++ "=" ++ value) :: rest) environment =
      readSettings rest (environment.withOption s value) := by
  have hvalue : s.takesValue := by
    rcases hs with rfl | rfl <;> rfl
  have hne : spelling ++ "=" ++ value ≠ "--" := by
    intro heq
    have hmem : '=' ∈ (spelling ++ "=" ++ value).toList := by simp
    rw [heq] at hmem
    exact absurd hmem (by decide)
  rw [readSettings, readSettings, Argument.ofTexts, if_neg hne, Argument.ofText_assigned h]
  dsimp only
  cases Argument.ofTexts rest with
  | error e => rfl
  | ok arguments =>
      dsimp only
      rw [readArguments_assigned hvalue, applyValue_settings hs]

/-- Arguments that assign nothing to an option leave it to the environment. -/
theorem option_readSettings (hs : s = .host ∨ s = .basePath) {arguments : List String}
    {environment : Environment} {settings : Settings}
    (hstem : ∀ text ∈ arguments, ¬ s.stem <+: text.toList)
    (h : readSettings arguments environment = .ok settings) :
    settings.option s = environment.settings.option s := by
  have houtput : s ≠ .output := by
    rcases hs with rfl | rfl <;> decide
  rw [readSettings] at h
  split at h
  · cases h
  · next as has =>
    split at h
    · cases h
    · next p hp =>
      split at h
      · split at h
        · cases h
        · cases h
          exact option_readArguments houtput (Argument.isOther_of_ofTexts has hstem) hp
      · cases h

/-- A value that the first argument assigns is the one that is read, if no other argument assigns
one. -/
theorem option_readSettings_assigned (h : (spelling, s) ∈ Switch.spellings)
    (hs : s = .host ∨ s = .basePath) {value : String} {rest : List String}
    {environment : Environment} {settings : Settings}
    (hstem : ∀ text ∈ rest, ¬ s.stem <+: text.toList)
    (hsettings : readSettings ((spelling ++ "=" ++ value) :: rest) environment = .ok settings) :
    settings.option s = some value := by
  rw [readSettings_assigned h hs] at hsettings
  rw [option_readSettings hs hstem hsettings, option_withOption hs]

theorem run_congr {arguments arguments' : List String} {environment environment' : Environment}
    (h : readSettings arguments environment = readSettings arguments' environment')
    (files : FileTree) (network : Http.Network) :
    run arguments environment files network = run arguments' environment' files network := by
  rw [run, run, h]

end Option

/-! ## The document -/

theorem exists_member_host (sets : List Csdl.EntitySet) (host : String)
    (basePath : Option String) :
    ∃ members, (Swagger.Document.ofSets sets ⟨some host, basePath⟩).toJson = .obj members ∧
      Json.member? "host" members = some (.str host) := by
  refine ⟨_, rfl, ?_⟩
  cases basePath <;>
    simp [Json.member?, Swagger.Document.ofSets, Swagger.Document.optionMember, List.lookup_cons]

theorem exists_member_basePath (sets : List Csdl.EntitySet) (host : Option String)
    (basePath : String) :
    ∃ members, (Swagger.Document.ofSets sets ⟨host, some basePath⟩).toJson = .obj members ∧
      Json.member? "basePath" members = some (.str basePath) := by
  refine ⟨_, rfl, ?_⟩
  cases host <;>
    simp [Json.member?, Swagger.Document.ofSets, Swagger.Document.optionMember, List.lookup_cons]

end ServiceDoc.CommandLine
