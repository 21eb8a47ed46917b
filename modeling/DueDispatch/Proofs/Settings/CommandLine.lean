import DueDispatch.Proofs.Settings.Config
import DueDispatch.Proofs.Settings.Texts
import Mathlib.Data.List.TakeWhile
import Mathlib.Logic.Function.Basic

/-!
# DueDispatch — where the settings come from

A command line gives some settings, each once and in one of two forms. Whatever the forms
and the order, the settings have the values that are written there. The other ones have
those of the environment, or else their defaults.

What the reading has come to is said by the texts that the settings have so far: a command
line, the environment and the defaults each add texts for settings that have none. An
option is only read when the next one comes, so on the command line this is said of what
the reader resolves to, and not of the reader itself.

## Results

* `takeAll_flatMap_arguments` — a command line gives the settings their texts.
* `foldlM_takeVariable` — the environment gives the others theirs.
* `readSettings_of_written` — what comes of a command line and an environment.
-/

namespace DueDispatch

-- ---------------------------------------------------------------------------
-- Written options
-- ---------------------------------------------------------------------------

/-- The ways to write the value of an option: behind an equals sign, or as an argument of
its own. -/
inductive Form
  | joined
  | separate

/-- A text that is not taken for an option when it stands alone. -/
def Detached (text : String) : Prop := text = "-" ∨ text.toList.head? ≠ some '-'

/-- An option on a command line: a value of a setting, a text of that value and the form
in which it is written. -/
structure Written where
  setting : Setting
  value : setting.Value
  text : String
  means : setting.kind.Means text value
  form : Form
  detached : form = .separate → Detached text

namespace Written

/-- The arguments that the option is written as. -/
def arguments (w : Written) : List String :=
  match w.form with
  | .joined => ["--" ++ w.setting.name ++ "=" ++ w.text]
  | .separate => ["--" ++ w.setting.name, w.text]

/-- What the option says, however it is written. -/
def assigned (w : Written) : (s : Setting) × s.Value := ⟨w.setting, w.value⟩

/-- The text that options give a setting, if they give one. -/
def textIn (ws : List Written) (s : Setting) : Option String :=
  (ws.find? fun w => w.setting = s).map Written.text

theorem textIn_cons (w : Written) (ws : List Written) (s : Setting) :
    textIn (w :: ws) s = if w.setting = s then some w.text else textIn ws s := by
  rw [textIn, List.find?_cons]
  by_cases hSame : w.setting = s
  · simp [hSame]
  · simp [hSame, textIn]

/-- A setting without a text was not written. -/
theorem textIn_eq_none_iff {ws : List Written} {s : Setting} :
    textIn ws s = none ↔ s ∉ ws.map setting := by
  simp [textIn, List.find?_eq_none]

/-- A setting with a text was written. -/
theorem isSome_textIn_iff {ws : List Written} {s : Setting} :
    (textIn ws s).isSome ↔ s ∈ ws.map setting := by
  rw [Option.isSome_iff_ne_none, ne_eq, textIn_eq_none_iff, not_not]

/-- What is written once is the text of its setting. -/
theorem textIn_of_mem {ws : List Written} (hOnce : (ws.map setting).Nodup) {w : Written}
    (hw : w ∈ ws) : textIn ws w.setting = some w.text := by
  induction ws with
  | nil => contradiction
  | cons first ws ih =>
    obtain ⟨hHead, hTail⟩ := List.nodup_cons.mp hOnce
    rw [textIn_cons]
    rcases List.mem_cons.mp hw with rfl | hRest
    · exact if_pos rfl
    · have hNotFirst : first.setting ≠ w.setting := fun hSame =>
        hHead (hSame ▸ List.mem_map_of_mem hRest)
      rw [if_neg hNotFirst]
      exact ih hTail hRest

/-- The same values are of the same settings. -/
theorem perm_settings {ws ws' : List Written}
    (hPerm : (ws'.map assigned).Perm (ws.map assigned)) :
    (ws'.map setting).Perm (ws.map setting) := by
  have hFirst := hPerm.map Sigma.fst
  rwa [List.map_map, List.map_map] at hFirst

end Written

/-- A value begins behind the first equals sign. -/
theorem splitValue_append {name : List Char} (hName : '=' ∉ name) (value : List Char) :
    splitValue (name ++ '=' :: value) = (String.ofList name, some (String.ofList value)) := by
  have hBefore : ∀ c ∈ name, (c != '=') = true := by
    intro c hc
    simpa using fun hEq : c = '=' => hName (hEq ▸ hc)
  have hDrop : (name ++ '=' :: value).dropWhile (· != '=') = '=' :: value := by
    rw [List.dropWhile_append_of_pos hBefore]
    rfl
  have hTake : (name ++ '=' :: value).takeWhile (· != '=') = name := by
    rw [List.takeWhile_append_of_pos hBefore]
    simp
  rw [splitValue, hDrop, hTake]

/-- Without an equals sign there is no value. -/
theorem splitValue_of_notMem {name : List Char} (hName : '=' ∉ name) :
    splitValue name = (String.ofList name, none) := by
  have hDrop : name.dropWhile (· != '=') = [] := by
    refine List.dropWhile_eq_nil_iff.mpr fun c hc => ?_
    simpa using fun hEq : c = '=' => hName (hEq ▸ hc)
  rw [splitValue, hDrop]

namespace Setting

theorem mem_all (s : Setting) : s ∈ all := by cases s <;> decide

theorem notMem_name (s : Setting) : '=' ∉ s.name.toList := by cases s <;> decide

theorem name_ne_nil (s : Setting) : s.name.toList ≠ [] := by cases s <;> decide

/-- Every setting has a default but the two that have to be given or follow another one. -/
theorem isSome_default? {s : Setting} (hDatabase : s ≠ databaseUrl) (hQueue : s ≠ queueRedisUrl) :
    s.default?.isSome := by
  cases s <;> first | rfl | contradiction

/-- A setting is found under its name. -/
theorem ofName?_name (s : Setting) : Flag.ofName? s.name = some (.setting s) := by
  cases s <;> rfl

end Setting

namespace Token

/-- An argument with two dashes is a long option. -/
theorem of_long {arg : String} {rest : List Char} (hArg : arg.toList = '-' :: '-' :: rest)
    (hRest : rest ≠ []) : of arg = .long (splitValue rest).1 (splitValue rest).2 := by
  unfold of
  rw [hArg]
  split
  · simp_all
  · simp_all
  · rename_i hNotLong hShort
    obtain ⟨rfl, rfl⟩ := List.cons_eq_cons.mp (List.cons_eq_cons.mp hShort).2
    exact absurd rfl hNotLong
  · simp_all

/-- An option joined with its value is split at the equals sign. -/
theorem of_joined (s : Setting) (text : String) :
    of ("--" ++ s.name ++ "=" ++ text) = .long s.name (some text) := by
  have hArg : ("--" ++ s.name ++ "=" ++ text).toList =
      '-' :: '-' :: (s.name.toList ++ '=' :: text.toList) := by simp
  rw [of_long hArg (by simp), splitValue_append s.notMem_name, String.ofList_toList,
    String.ofList_toList]

/-- An option on its own has its value in the next argument. -/
theorem of_separate (s : Setting) : of ("--" ++ s.name) = .long s.name none := by
  have hArg : ("--" ++ s.name).toList = '-' :: '-' :: s.name.toList := by simp
  rw [of_long hArg s.name_ne_nil, splitValue_of_notMem s.notMem_name, String.ofList_toList]

/-- A value on its own is taken as it is. -/
theorem of_detached {text : String} (hDetached : Detached text) : of text = .plain text := by
  rcases hDetached with rfl | hHead
  · rfl
  · unfold of
    split <;> simp_all

end Token

-- ---------------------------------------------------------------------------
-- Texts so far
-- ---------------------------------------------------------------------------

/-- The values are those of these texts. -/
structure Values.Reflects (v : Values) (texts : Setting → Option String) : Prop where
  of_some : ∀ s text, texts s = some text → ∃ x, s.kind.Means text x ∧ v s = some x
  of_none : ∀ s, texts s = none → v s = none

/-- The reader has read these texts, and no option is incomplete. -/
structure Progress.Settled (p : Progress) (texts : Setting → Option String) : Prop where
  pending : p.pending = none
  mem_given : ∀ s, s ∈ p.given ↔ (texts s).isSome
  values : p.values.Reflects texts

/-- The reader will have read these texts once the option before is complete. -/
def Progress.ResolvesTo (p : Progress) (texts : Setting → Option String) : Prop :=
  ∃ q, p.resolve = .ok q ∧ q.Settled texts

/-- A value that is set reflects its text. -/
theorem Values.Reflects.set {v : Values} {texts : Setting → Option String}
    (hReflects : v.Reflects texts) {s : Setting} {text : String} {x : s.Value}
    (hMeans : s.kind.Means text x) :
    (v.set s x).Reflects (Function.update texts s (some text)) := by
  constructor
  · intro other text' hText
    by_cases hSame : s = other
    · subst hSame
      obtain rfl : text = text' := by simpa using hText
      exact ⟨x, hMeans, by simp [Values.set]⟩
    · rw [Function.update_of_ne (Ne.symm hSame)] at hText
      simpa [Values.set, hSame] using hReflects.of_some other text' hText
  · intro other hText
    have hOther : other ≠ s := by
      rintro rfl
      simp at hText
    rw [Function.update_of_ne hOther] at hText
    simpa [Values.set, hOther.symm] using hReflects.of_none other hText

namespace Progress

variable {p : Progress} {texts : Setting → Option String} {s : Setting} {text : String}

/-- At the beginning nothing is given and nothing pending. -/
theorem settled_empty : ({} : Progress).Settled fun _ => none :=
  ⟨rfl, by simp, ⟨by simp, fun _ _ => rfl⟩⟩

/-- Where nothing is pending there is nothing to resolve. -/
theorem Settled.resolvesTo (hSettled : p.Settled texts) : p.ResolvesTo texts :=
  ⟨p, by rw [resolve, hSettled.pending], hSettled⟩

/-- A text of a value is read. -/
theorem Settled.accept (hSettled : p.Settled texts) {x : s.Value} (hMeans : s.kind.Means text x) :
    ∃ q, p.accept s text = .ok q ∧ q.Settled (Function.update texts s (some text)) := by
  have hRead : s.read text = .ok x := Kind.read_eq_ok_iff.mpr hMeans
  refine ⟨{ p with values := p.values.set s x, given := p.given ++ [s] },
    by rw [Progress.accept, hRead], hSettled.pending, fun other => ?_,
    hSettled.values.set hMeans⟩
  rw [List.mem_append, hSettled.mem_given, List.mem_singleton]
  by_cases hSame : other = s
  · simp [hSame]
  · simp [hSame]

/-- An option that was not given before is accepted. -/
theorem Settled.acceptOption (hSettled : p.Settled texts) (hNew : texts s = none) {x : s.Value}
    (hMeans : s.kind.Means text x) :
    ∃ q, p.acceptOption s text = .ok q ∧ q.Settled (Function.update texts s (some text)) := by
  have hNotGiven : s ∉ p.given := by simp [hSettled.mem_given, hNew]
  rw [Progress.acceptOption, if_neg hNotGiven]
  exact hSettled.accept hMeans

-- ---------------------------------------------------------------------------
-- The command line
-- ---------------------------------------------------------------------------

theorem takeAll_nil (p : Progress) : takeAll [] p = p.resolve := rfl

/-- A long option is taken first, and then the rest. -/
theorem takeAll_long {arg name : String} {value : Option String}
    (hToken : Token.of arg = .long name value) (rest : List String) (p : Progress) :
    takeAll (arg :: rest) p = p.long name value >>= takeAll rest := by
  rw [takeAll.eq_def]
  simp only [hToken]

/-- So is an argument that is none. -/
theorem takeAll_plain {arg text : String} (hToken : Token.of arg = .plain text)
    (rest : List String) (p : Progress) :
    takeAll (arg :: rest) p = p.plain text >>= takeAll rest := by
  rw [takeAll.eq_def]
  simp only [hToken]

/-- An option is taken in either form. -/
theorem ResolvesTo.takeAll_arguments (hResolves : p.ResolvesTo texts) (w : Written)
    (hNew : texts w.setting = none) (rest : List String) :
    ∃ q, takeAll (w.arguments ++ rest) p = takeAll rest q ∧
      q.ResolvesTo (Function.update texts w.setting (some w.text)) := by
  obtain ⟨q, hResolve, hSettled⟩ := hResolves
  obtain ⟨q', hAccept, hSettled'⟩ := hSettled.acceptOption hNew w.means
  unfold Written.arguments
  cases hForm : w.form with
  -- the value is there, and read at once
  | joined =>
    refine ⟨q', ?_, hSettled'.resolvesTo⟩
    rw [List.singleton_append, takeAll_long (Token.of_joined ..)]
    simp only [long, w.setting.ofName?_name, hResolve]
    exact congrArg (· >>= takeAll rest) hAccept
  -- the value is the next argument, and read when the option after it comes
  | separate =>
    refine ⟨{ q with pending := some (w.setting, some w.text) }, ?_, q', ?_, hSettled'⟩
    · rw [List.cons_append, List.singleton_append, takeAll_long (Token.of_separate _)]
      simp only [long, w.setting.ofName?_name, hResolve]
      show takeAll (w.text :: rest) { q with pending := some (w.setting, none) } = _
      rw [takeAll_plain (Token.of_detached (w.detached hForm))]
      rfl
    · have hEta : { q with pending := none } = q := by rw [← hSettled.pending]
      rw [resolve]
      show Progress.acceptOption { q with pending := none } w.setting w.text = .ok q'
      rw [hEta, hAccept]

/-- **A command line gives the settings their texts**, each option being given once. -/
theorem ResolvesTo.takeAll_flatMap_arguments (hResolves : p.ResolvesTo texts)
    {ws : List Written} (hOnce : (ws.map Written.setting).Nodup)
    (hNew : ∀ w ∈ ws, texts w.setting = none) :
    ∃ q, takeAll (ws.flatMap Written.arguments) p = .ok q ∧
      q.Settled fun s => (Written.textIn ws s).or (texts s) := by
  induction ws generalizing p texts with
  | nil =>
    obtain ⟨q, hResolve, hSettled⟩ := hResolves
    refine ⟨q, by rw [List.flatMap_nil, takeAll_nil, hResolve], ?_⟩
    simpa [Written.textIn] using hSettled
  | cons w ws ih =>
    obtain ⟨hHead, hTail⟩ := List.nodup_cons.mp hOnce
    obtain ⟨hNewHead, hNewTail⟩ := List.forall_mem_cons.mp hNew
    obtain ⟨q, hTake, hResolves'⟩ :=
      hResolves.takeAll_arguments w hNewHead (ws.flatMap Written.arguments)
    have hOther : ∀ w' ∈ ws, w'.setting ≠ w.setting := fun w' hw' hSame =>
      hHead (hSame ▸ List.mem_map_of_mem hw')
    obtain ⟨q', hRest, hSettled⟩ := ih hResolves' hTail fun w' hw' => by
      rw [Function.update_of_ne (hOther w' hw'), hNewTail w' hw']
    refine ⟨q', by rw [List.flatMap_cons, hTake, hRest], ?_⟩
    -- the texts of the later options do not touch that of the first
    have hTexts : (fun s => (Written.textIn (w :: ws) s).or (texts s)) = fun s =>
        (Written.textIn ws s).or (Function.update texts w.setting (some w.text) s) := by
      funext s
      rw [Written.textIn_cons]
      by_cases hSame : w.setting = s
      · subst hSame
        simp [Written.textIn_eq_none_iff.mpr hHead]
      · rw [if_neg hSame, Function.update_of_ne (Ne.symm hSame)]
    rwa [hTexts]

-- ---------------------------------------------------------------------------
-- The environment and the defaults
-- ---------------------------------------------------------------------------

/-- A variable only counts for a setting that has no text yet. -/
theorem Settled.takeVariable (hSettled : p.Settled texts) {env : Environment} {s : Setting}
    (hValid : texts s = none → ∀ text, env s.envName = some text → ∃ x, s.kind.Means text x) :
    ∃ q, p.takeVariable env s = .ok q ∧
      q.Settled (Function.update texts s ((texts s).or (env s.envName))) := by
  rw [Progress.takeVariable]
  cases hText : texts s with
  | some text =>
    have hGiven : s ∈ p.given := by simp [hSettled.mem_given, hText]
    refine ⟨p, if_pos hGiven, ?_⟩
    rwa [Option.some_or, ← hText, Function.update_eq_self]
  | none =>
    have hNotGiven : s ∉ p.given := by simp [hSettled.mem_given, hText]
    rw [if_neg hNotGiven, Option.none_or]
    cases hVariable : env s.envName with
    | none =>
      refine ⟨p, rfl, ?_⟩
      rwa [← hText, Function.update_eq_self]
    | some text =>
      obtain ⟨x, hMeans⟩ := hValid hText text hVariable
      exact hSettled.accept hMeans

/-- **The environment gives the other settings their texts.** -/
theorem Settled.foldlM_takeVariable (hSettled : p.Settled texts) (env : Environment)
    (ss : List Setting)
    (hValid : ∀ s, texts s = none → ∀ text, env s.envName = some text →
      ∃ x, s.kind.Means text x) :
    ∃ q, ss.foldlM (Progress.takeVariable env) p = .ok q ∧
      q.Settled fun s => if s ∈ ss then (texts s).or (env s.envName) else texts s := by
  induction ss generalizing p texts with
  | nil => exact ⟨p, rfl, by simpa using hSettled⟩
  | cons s ss ih =>
    obtain ⟨q, hTake, hSettled'⟩ := hSettled.takeVariable (hValid s)
    obtain ⟨q', hRest, hSettled''⟩ := ih hSettled' fun other hNone => by
      by_cases hSame : other = s
      · subst hSame
        rw [Function.update_self] at hNone
        exact hValid other (Option.or_eq_none_iff.mp hNone).1
      · rw [Function.update_of_ne hSame] at hNone
        exact hValid other hNone
    have hTexts : (fun other => if other ∈ s :: ss then (texts other).or (env other.envName)
          else texts other) = fun other =>
        let texts' := Function.update texts s ((texts s).or (env s.envName))
        if other ∈ ss then (texts' other).or (env other.envName) else texts' other := by
      funext other
      by_cases hSame : other = s
      · subst hSame
        simp [Option.or_assoc]
      · simp [hSame]
    refine ⟨q', ?_, by rwa [hTexts]⟩
    rw [List.foldlM_cons, hTake]
    exact hRest

end Progress

/-- The text that a setting has in the end. -/
def textFor (ws : List Written) (env : Environment) (s : Setting) : Option String :=
  ((Written.textIn ws s).or (env s.envName)).or s.default?

/-- With the defaults, values reflect what is given or else the defaults. -/
theorem Values.Reflects.orDefault {v : Values} {texts : Setting → Option String}
    (hReflects : v.Reflects texts) : v.orDefault.Reflects fun s => (texts s).or s.default? := by
  constructor
  · intro s text hText
    cases hOwn : texts s with
    | some text' =>
      rw [hOwn, Option.some_or, Option.some.injEq] at hText
      obtain ⟨x, hMeans, hValue⟩ := hReflects.of_some s text' hOwn
      exact ⟨x, hText ▸ hMeans, by rw [Values.orDefault, hValue]⟩
    | none =>
      rw [hOwn, Option.none_or] at hText
      obtain ⟨x, hMeans⟩ := Setting.exists_means_default hText
      have hRead : s.read text = .ok x := Kind.read_eq_ok_iff.mpr hMeans
      refine ⟨x, hMeans, ?_⟩
      rw [Values.orDefault, hReflects.of_none s hOwn, hText, Option.bind_some, hRead]
      rfl
  · intro s hText
    obtain ⟨hOwn, hDefault⟩ := Option.or_eq_none_iff.mp hText
    rw [Values.orDefault, hReflects.of_none s hOwn, hDefault, Option.bind_none]

-- ---------------------------------------------------------------------------
-- The settings
-- ---------------------------------------------------------------------------

variable {ws : List Written} {env : Environment}

/-- The settings are read, and have the values of their texts. -/
theorem exists_readSettings_eq_ok (hOnce : (ws.map Written.setting).Nodup)
    (hValid : ∀ s ∉ ws.map Written.setting, ∀ text, env s.envName = some text →
      ∃ x, s.kind.Means text x)
    (hDatabase : .databaseUrl ∈ ws.map Written.setting ∨
      (env Setting.databaseUrl.envName).isSome) :
    ∃ values, readSettings (ws.flatMap Written.arguments) env = .ok values ∧
      values.Reflects (textFor ws env) := by
  obtain ⟨q, hTake, hSettled⟩ :=
    Progress.settled_empty.resolvesTo.takeAll_flatMap_arguments hOnce fun _ _ => rfl
  simp only [Option.or_none] at hSettled
  obtain ⟨q', hFold, hSettled'⟩ := hSettled.foldlM_takeVariable env Setting.all
    fun s hNone => hValid s (Written.textIn_eq_none_iff.mp hNone)
  simp only [Setting.mem_all, if_true] at hSettled'
  have hGiven : Setting.databaseUrl ∈ q'.given := by
    rwa [hSettled'.mem_given, Option.isSome_or, Bool.or_eq_true, Written.isSome_textIn_iff]
  refine ⟨q'.values.orDefault, ?_, hSettled'.values.orDefault⟩
  rw [readSettings, hTake]
  show (Setting.all.foldlM (Progress.takeVariable env) q >>= _) = _
  rw [hFold]
  exact if_pos hGiven

namespace Values.Reflects

variable {values values' : Values}

/-- What is written counts. -/
theorem of_mem (hReflects : values.Reflects (textFor ws env))
    (hOnce : (ws.map Written.setting).Nodup) {w : Written} (hw : w ∈ ws) :
    values w.assigned.1 = some w.assigned.2 := by
  have hText : textFor ws env w.setting = some w.text := by
    rw [textFor, Written.textIn_of_mem hOnce hw, Option.some_or, Option.some_or]
  obtain ⟨x, hMeans, hValue⟩ := hReflects.of_some _ _ hText
  exact hValue.trans (congrArg _ (hMeans.eq w.means))

/-- For what is not written the environment counts, and then the default. -/
theorem textFor_of_notMem {s : Setting} (hOther : s ∉ ws.map Written.setting) :
    textFor ws env s = (env s.envName).or s.default? := by
  rw [textFor, Written.textIn_eq_none_iff.mpr hOther, Option.none_or]

/-- Values are determined by their texts. -/
theorem eq_at {texts texts' : Setting → Option String} (hReflects : values.Reflects texts)
    (hReflects' : values'.Reflects texts') {s : Setting} (hSame : texts s = texts' s) :
    values s = values' s := by
  cases hText : texts' s with
  | none => rw [hReflects.of_none s (hSame.trans hText), hReflects'.of_none s hText]
  | some text =>
    obtain ⟨x, hMeans, hValue⟩ := hReflects.of_some s text (hSame.trans hText)
    obtain ⟨x', hMeans', hValue'⟩ := hReflects'.of_some s text hText
    rw [hValue, hValue', hMeans.eq hMeans']

/-- The same values, written in other ways or in another order, and with other variables for
the settings that are written. -/
theorem eq_of_perm {ws' : List Written} {env' : Environment}
    (hReflects : values.Reflects (textFor ws env))
    (hReflects' : values'.Reflects (textFor ws' env'))
    (hOnce : (ws.map Written.setting).Nodup)
    (hPerm : (ws'.map Written.assigned).Perm (ws.map Written.assigned))
    (hAgree : ∀ s ∉ ws.map Written.setting, env' s.envName = env s.envName) :
    values' = values := by
  have hSettings := Written.perm_settings hPerm
  funext s
  by_cases hWritten : s ∈ ws.map Written.setting
  · obtain ⟨w, hw, rfl⟩ := List.mem_map.mp hWritten
    obtain ⟨w', hw', hSame⟩ := List.mem_map.mp (hPerm.mem_iff.mpr (List.mem_map_of_mem hw))
    have hValue' := hReflects'.of_mem (hSettings.nodup_iff.mpr hOnce) hw'
    rw [hSame] at hValue'
    exact hValue'.trans (hReflects.of_mem hOnce hw).symm
  · have hOther' : s ∉ ws'.map Written.setting := fun h => hWritten (hSettings.mem_iff.mp h)
    refine hReflects'.eq_at hReflects ?_
    rw [textFor_of_notMem hWritten, textFor_of_notMem hOther', hAgree s hWritten]

/-- Only the queue may be without a value. -/
theorem isSome_of_ne (hReflects : values.Reflects (textFor ws env))
    (hDatabase : .databaseUrl ∈ ws.map Written.setting ∨
      (env Setting.databaseUrl.envName).isSome) {s : Setting} (hQueue : s ≠ .queueRedisUrl) :
    (values s).isSome := by
  have hText : (textFor ws env s).isSome := by
    rw [textFor, Option.isSome_or, Option.isSome_or, Bool.or_eq_true, Bool.or_eq_true,
      Written.isSome_textIn_iff]
    by_cases hSame : s = .databaseUrl
    · subst hSame
      exact Or.inl hDatabase
    · exact Or.inr (Setting.isSome_default? hSame hQueue)
  obtain ⟨text, hText⟩ := Option.isSome_iff_exists.mp hText
  obtain ⟨x, -, hValue⟩ := hReflects.of_some s text hText
  rw [hValue]
  rfl

end Values.Reflects

/-- **What comes of a command line and an environment.** Options are written once each, in
whichever form and order. The variables of the other settings are not set, or have texts of
values, and the database is named somewhere. Then

* the settings are read, and those that are written have the values that are written,
* each other setting has the value of its variable or else its default, and none if there
  is neither,
* writing the same values in other ways or in another order makes no difference, nor does
  any change of the variables of settings that are written, even to texts of no value,
* and the configuration, unless it is refused, carries these values. -/
theorem readSettings_of_written (hOnce : (ws.map Written.setting).Nodup)
    (hValid : ∀ s ∉ ws.map Written.setting, ∀ text, env s.envName = some text →
      ∃ x, s.kind.Means text x)
    (hDatabase : .databaseUrl ∈ ws.map Written.setting ∨
      (env Setting.databaseUrl.envName).isSome) :
    ∃ values, readSettings (ws.flatMap Written.arguments) env = .ok values ∧
      (∀ w ∈ ws, values w.setting = some w.value) ∧
      (∀ s ∉ ws.map Written.setting,
        (∀ text, (env s.envName).or s.default? = some text →
          ∃ x, s.kind.Means text x ∧ values s = some x) ∧
        ((env s.envName).or s.default? = none → values s = none)) ∧
      (∀ (ws' : List Written) (env' : Environment),
        (ws'.map Written.assigned).Perm (ws.map Written.assigned) →
        (∀ s ∉ ws.map Written.setting, env' s.envName = env s.envName) →
          readSettings (ws'.flatMap Written.arguments) env' = .ok values) ∧
      ((∃ fault, Config.check values = .error fault) ∨
        ∃ c, Config.check values = .ok c ∧ c.Carries values) := by
  obtain ⟨values, hRead, hReflects⟩ := exists_readSettings_eq_ok hOnce hValid hDatabase
  refine ⟨values, hRead, fun w hw => hReflects.of_mem hOnce hw, fun s hOther => ⟨?_, ?_⟩, ?_, ?_⟩
  · exact fun text hText =>
      hReflects.of_some s text ((Values.Reflects.textFor_of_notMem hOther).trans hText)
  · exact fun hText => hReflects.of_none s ((Values.Reflects.textFor_of_notMem hOther).trans hText)
  · intro ws' env' hPerm hAgree
    -- the other command line writes the same settings, so it satisfies the same conditions
    have hSettings := Written.perm_settings hPerm
    have hValid' : ∀ s ∉ ws'.map Written.setting, ∀ text, env' s.envName = some text →
        ∃ x, s.kind.Means text x := by
      intro s hOther
      rw [hSettings.mem_iff] at hOther
      rw [hAgree s hOther]
      exact hValid s hOther
    have hDatabase' : .databaseUrl ∈ ws'.map Written.setting ∨
        (env' Setting.databaseUrl.envName).isSome := by
      rw [hSettings.mem_iff]
      by_cases hWritten : Setting.databaseUrl ∈ ws.map Written.setting
      · exact Or.inl hWritten
      · rw [hAgree _ hWritten]
        exact hDatabase
    obtain ⟨values', hRead', hReflects'⟩ :=
      exists_readSettings_eq_ok (hSettings.nodup_iff.mpr hOnce) hValid' hDatabase'
    rw [hRead', hReflects.eq_of_perm hReflects' hOnce hPerm hAgree]
  · cases hCheck : Config.check values with
    | error fault => exact Or.inl ⟨fault, rfl⟩
    | ok c =>
      refine Or.inr ⟨c, rfl, ?_⟩
      rw [Config.eq_of_check hCheck]
      exact Config.carries_ofValues fun s hQueue => hReflects.isSome_of_ne hDatabase hQueue

-- ---------------------------------------------------------------------------
-- Three options and an environment
-- ---------------------------------------------------------------------------

/-- `--database-url=postgres://h/d?a=b` -/
def writtenDatabase : Written where
  setting := .databaseUrl
  value := "postgres://h/d?a=b"
  text := "postgres://h/d?a=b"
  means := rfl
  form := .joined
  detached := by simp

/-- `--batch-cap +007` -/
def writtenCap : Written where
  setting := .batchCap
  value := (7 : UInt64)
  text := "+007"
  means := Kind.read_eq_ok_iff.mp rfl
  form := .separate
  detached := fun _ => Or.inr (by decide)

/-- `--queue-channel -` -/
def writtenChannel : Written where
  setting := .queueChannel
  value := "-"
  text := "-"
  means := rfl
  form := .separate
  detached := fun _ => Or.inl rfl

/-- Variables, two of which are for settings that are written. -/
def mixedEnv : Environment :=
  .ofList [("BATCH_CAP", "many"), ("DATABASE_URL", ""), ("CHUNK_SIZE", "5")]

/-- The written values count, then the variables, then the defaults; neither the order nor
the variable that is no number makes a difference. -/
theorem readSettings_of_written_mixed :
    ∃ values,
      readSettings ["--database-url=postgres://h/d?a=b", "--batch-cap", "+007",
        "--queue-channel", "-"] mixedEnv = .ok values ∧
      readSettings ["--queue-channel", "-", "--batch-cap", "+007",
        "--database-url=postgres://h/d?a=b"] (.ofList [("CHUNK_SIZE", "5")]) = .ok values ∧
      values .databaseUrl = some "postgres://h/d?a=b" ∧ values .batchCap = some (7 : UInt64) ∧
      values .chunkSize = some (5 : UInt64) ∧ values .leaseNamespace = some defaultKeyspace ∧
      values .queueRedisUrl = none := by
  have hFive : Kind.Means .number "5" (5 : UInt64) := Kind.read_eq_ok_iff.mp rfl
  have hValid : ∀ s ∉ [writtenDatabase, writtenCap, writtenChannel].map Written.setting,
      ∀ text, mixedEnv s.envName = some text → ∃ x, s.kind.Means text x := by
    intro s hOther text hText
    cases s with
    | chunkSize =>
      obtain rfl : "5" = text := Option.some.inj hText
      exact ⟨_, hFive⟩
    | databaseUrl => exact absurd (by decide) hOther
    | batchCap => exact absurd (by decide) hOther
    | queueChannel => exact absurd (by decide) hOther
    | _ => exact absurd hText.symm (Option.some_ne_none text)
  obtain ⟨values, hRead, hWritten, hRest, hSame, -⟩ :=
    readSettings_of_written (by decide) hValid (Or.inl (by decide))
  refine ⟨values, hRead, hSame [writtenChannel, writtenCap, writtenDatabase] _ ?_ ?_,
    hWritten writtenDatabase (by simp), hWritten writtenCap (by simp), ?_, ?_, ?_⟩
  · exact List.reverse_perm ([writtenDatabase, writtenCap, writtenChannel].map Written.assigned)
  · intro s hOther
    cases s with
    | batchCap => exact absurd (by decide) hOther
    | databaseUrl => exact absurd (by decide) hOther
    | _ => rfl
  · obtain ⟨x, hMeans, hValue⟩ := (hRest .chunkSize (by decide)).1 "5" rfl
    rw [hValue, hMeans.eq hFive]
  · obtain ⟨x, hMeans, hValue⟩ := (hRest .leaseNamespace (by decide)).1 defaultKeyspace rfl
    rw [hValue, hMeans]
  · exact (hRest .queueRedisUrl (by decide)).2 rfl

end DueDispatch
