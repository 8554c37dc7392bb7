import EngineClient.Configuration.Environment
import EngineClient.Proofs.Json.Integers
import EngineClient.Proofs.Text.Words

/-!
# Configurations in the environment

A configuration can be written to variables in many ways: nodes with white space and blank entries
between commas, numbers and truth values with white space around them. `Setting.Written` says what a
variable may hold, or that it is missing.

**`Configuration.ofLookup_written`**: whichever way it was written, the configuration is read back,
and a setting that is left out gets its standard value. Nothing but the variables of the settings
has a say.
-/

namespace EngineClient

open Text Json.Reader

variable {cs : List Char} {value : String} {n limit : ℕ}

/-! ## Numbers -/

/-- Decimal digits of a number, maybe with zeros in front. -/
structure IsDecimal (cs : List Char) (n : ℕ) : Prop where
  ne_nil : cs ≠ []
  digits : ∀ c ∈ cs, c.isDigit = true
  value : Nat.ofDigitChars 10 cs 0 = n

theorem isDecimal_digitsOf (n : ℕ) : IsDecimal (Decimal.digitsOf n) n :=
  ⟨Nat.toDigits_ne_nil, fun _ => isDigit_of_mem_digitsOf, Nat.ofDigitChars_ten_toDigits⟩

/-- Digits whose value stays below the limit are all read. -/
theorem readDigits_eq (digits : ∀ c ∈ cs, c.isDigit = true) {front : ℕ}
    (fits : Nat.ofDigitChars 10 cs front < limit) :
    readDigits limit front cs = .ok (Nat.ofDigitChars 10 cs front) := by
  induction cs generalizing front with
  | nil => rfl
  | cons c cs ih =>
    obtain ⟨first, others⟩ := List.forall_mem_cons.mp digits
    rw [Nat.ofDigitChars_cons, Nat.mul_comm] at fits ⊢
    -- what is read so far is at most the whole, so no digit on the way is refused
    have step := (le_ofDigitChars cs _).trans_lt fits
    rw [readDigits, if_pos first]
    simp only [if_pos step]
    exact ih others fits

theorem isBlank_of_isDigit {c : Char} (digit : c.isDigit = true) : isBlank c = false := by
  obtain ⟨-, low, high⟩ := toNat_code_of_isDigit digit
  simp [isBlank, blankRanges]
  omega

namespace IsDecimal

theorem readNatural_eq (h : IsDecimal cs n) (fits : n < limit) : readNatural limit cs = .ok n := by
  obtain ⟨c, rest, rfl⟩ := List.exists_cons_of_ne_nil h.ne_nil
  have read : readDigits limit 0 (c :: rest) = .ok (Nat.ofDigitChars 10 (c :: rest) 0) :=
    readDigits_eq h.digits (h.value.symm ▸ fits)
  rw [h.value] at read
  -- a sign is no digit
  have unsigned : c ≠ '+' := by
    rintro rfl
    exact absurd (h.digits '+' List.mem_cons_self) (by decide)
  unfold readNatural
  split
  · contradiction
  · rename_i same
    cases same
    contradiction
  · rename_i same
    cases same
    contradiction
  · exact read

theorem bare (h : IsDecimal cs n) : Bare cs :=
  ⟨fun c first => isBlank_of_isDigit (h.digits c (List.mem_of_mem_head? first)),
    fun c last => isBlank_of_isDigit (h.digits c (List.mem_of_getLast? last))⟩

end IsDecimal

/-! ## Values -/

/-- The value is a text with white space around it. -/
def Padded (cs : List Char) (value : String) : Prop :=
  ∃ before after, Blank before ∧ Blank after ∧ value.toList = before ++ cs ++ after

/-- The value is a number in decimal with white space around it. -/
def WritesNumber (n : ℕ) (value : String) : Prop :=
  ∃ digits, IsDecimal digits n ∧ Padded digits value

theorem Padded.trimChars_eq (h : Padded cs value) (bare : Bare cs) :
    trimChars value.toList = cs := by
  obtain ⟨before, after, front, back, parts⟩ := h
  rw [parts, trimChars_padded front back bare]

theorem WritesNumber.readNumber_eq (h : WritesNumber n value) (fits : n < limit)
    (setting : Setting) : setting.readNumber limit value = .ok n := by
  obtain ⟨digits, decimal, padded⟩ := h
  rw [Setting.readNumber, padded.trimChars_eq decimal.bare, decimal.readNatural_eq fits]
  rfl

theorem readBool?_of_padded {b : Bool} (h : Padded (toString b).toList value) :
    readBool? (trimChars value.toList) = some b := by
  cases b with
  | true =>
    rw [h.trimChars_eq (by decide)]
    rfl
  | false =>
    rw [h.trimChars_eq (by decide)]
    rfl

/-! ## Variables -/

namespace Setting

/-- What follows the stem and an underscore in the name of the variable of a setting. -/
def ending : Setting → String
  | .nodes => "NODES"
  | .username => "USERNAME"
  | .password => "PASSWORD"
  | .connectTimeout => "CONNECT_TIMEOUT_MS"
  | .requestTimeout => "REQUEST_TIMEOUT_MS"
  | .retryMax => "RETRY_ATTEMPT_MAX"
  | .retryWait => "RETRY_ATTEMPT_WAIT_MS"
  | .toleratesBadRequest => "DELETE_BY_QUERY_TOLERATES_BAD_REQUEST"

theorem variableName_eq (stem : String) (setting : Setting) :
    setting.variableName stem = uppercase stem ++ "_" ++ setting.ending := by
  have same : setting.suffix = setting.ending := by cases setting <;> decide
  rw [variableName, same]

/-- What the variable of a setting may hold to say what the configuration says. Credentials that
the configuration does not have are missing. -/
def Written (source : Configuration) (setting : Setting) (answer : Option String) : Prop :=
  match setting with
  | .nodes => ∃ value, answer = some value ∧ Lists ',' value.toList source.nodes
  | .username => answer = source.username
  | .password => answer = source.password
  | .connectTimeout =>
    ∃ value, answer = some value ∧ WritesNumber source.connectTimeout.toNat value
  | .requestTimeout =>
    ∃ value, answer = some value ∧ WritesNumber source.requestTimeout.toNat value
  | .retryMax => ∃ value, answer = some value ∧ WritesNumber source.retryMax.toNat value
  | .retryWait => ∃ value, answer = some value ∧ WritesNumber source.retryWait.toNat value
  | .toleratesBadRequest =>
    ∃ value, answer = some value ∧ Padded (toString source.toleratesBadRequest).toList value

/-- Takes one setting over from a configuration, unless it is left out. -/
def takeOver (source : Configuration) (leftOut : Bool) (setting : Setting)
    (target : Configuration) : Configuration :=
  match setting with
  | .nodes => { target with nodes := if leftOut then target.nodes else source.nodes }
  | .username => { target with username := if leftOut then target.username else source.username }
  | .password => { target with password := if leftOut then target.password else source.password }
  | .connectTimeout =>
    { target with
      connectTimeout := if leftOut then target.connectTimeout else source.connectTimeout }
  | .requestTimeout =>
    { target with
      requestTimeout := if leftOut then target.requestTimeout else source.requestTimeout }
  | .retryMax => { target with retryMax := if leftOut then target.retryMax else source.retryMax }
  | .retryWait =>
    { target with retryWait := if leftOut then target.retryWait else source.retryWait }
  | .toleratesBadRequest =>
    { target with
      toleratesBadRequest :=
        if leftOut then target.toleratesBadRequest else source.toleratesBadRequest }

variable {source target : Configuration} {setting : Setting}

/-- A variable that was written sets its setting and no other. -/
theorem setText_of_written (written : setting.Written source (some value))
    (correct : ∀ node ∈ source.nodes, IsWord ',' node) :
    setting.setText value target = .ok (setting.takeOver source false target) := by
  cases setting with
  | nodes =>
    obtain ⟨_, ⟨⟩, lists⟩ := written
    have read := words_eq_iff.mpr ⟨lists, correct⟩
    rw [setText, read]
    rfl
  | username | password =>
    have given : some value = _ := written
    simp only [setText, takeOver, ← given]
    rfl
  | connectTimeout | requestTimeout | retryWait =>
    obtain ⟨_, ⟨⟩, number⟩ := written
    simp only [setText, number.readNumber_eq (UInt64.toNat_lt_size _), ok_bind,
      UInt64.ofNat_toNat]
    rfl
  | retryMax =>
    obtain ⟨_, ⟨⟩, number⟩ := written
    simp only [setText, number.readNumber_eq (UInt32.toNat_lt_size _), ok_bind,
      UInt32.ofNat_toNat]
    rfl
  | toleratesBadRequest =>
    obtain ⟨_, ⟨⟩, padded⟩ := written
    simp only [setText, readBool?_of_padded padded]
    rfl

theorem takeOver_of_leftOut : setting.takeOver source true target = target := by
  cases setting <;> rfl

/-- Variables set their settings one after the other, and those that are missing set none. -/
theorem foldlM_of_written (answer : Setting → Option String)
    (written : ∀ setting value, answer setting = some value → setting.Written source (some value))
    (correct : ∀ node ∈ source.nodes, IsWord ',' node) (settings : List Setting)
    (target : Configuration) :
    settings.foldlM (fun config setting =>
      match answer setting with
      | some value => setting.setText value config
      | none => .ok config) target =
        .ok (settings.foldl (fun config setting =>
          setting.takeOver source (answer setting).isNone config) target) := by
  induction settings generalizing target with
  | nil => rfl
  | cons setting settings ih =>
    rw [List.foldlM_cons, List.foldl_cons]
    cases given : answer setting with
    | none =>
      rw [ok_bind, ih, Option.isNone_none, takeOver_of_leftOut]
    | some value =>
      dsimp only
      rw [setText_of_written (written setting value given) correct, ok_bind, ih]
      rfl

end Setting

/-! ## Reading -/

namespace Configuration

/-- The configuration, but for some settings that have their standard values. -/
def leavingOut (config : Configuration) (leftOut : Setting → Bool) : Configuration where
  nodes := if leftOut .nodes then standard.nodes else config.nodes
  username := if leftOut .username then standard.username else config.username
  password := if leftOut .password then standard.password else config.password
  connectTimeout :=
    if leftOut .connectTimeout then standard.connectTimeout else config.connectTimeout
  requestTimeout :=
    if leftOut .requestTimeout then standard.requestTimeout else config.requestTimeout
  retryMax := if leftOut .retryMax then standard.retryMax else config.retryMax
  retryWait := if leftOut .retryWait then standard.retryWait else config.retryWait
  toleratesBadRequest :=
    if leftOut .toleratesBadRequest then standard.toleratesBadRequest
    else config.toleratesBadRequest

variable {config : Configuration} {stem : String} {lookup : String → Option String}

/-- What is missing has its standard value, and what is there was read. -/
theorem ofLookup_eq
    (written : ∀ setting : Setting, ∀ value, lookup (setting.variableName stem) = some value →
      setting.Written config (some value))
    (correct : ∀ node ∈ config.nodes, IsWord ',' node) :
    ofLookup stem lookup =
      (config.leavingOut fun setting => (lookup (setting.variableName stem)).isNone).validated := by
  have read := Setting.foldlM_of_written (fun setting => lookup (setting.variableName stem)) written
    correct Setting.all standard
  exact congrArg (· >>= validated) read

theorem ite_isNone_eq {answer own : Option String} {leftOut : Bool}
    (shown : if leftOut then answer = none else answer = own) :
    (if answer.isNone then none else own) = if leftOut then none else own := by
  cases leftOut with
  | true =>
    have missing : answer = none := shown
    rw [missing]
    rfl
  | false =>
    have written : answer = own := shown
    rw [written]
    cases own <;> rfl

/-- A credential that the configuration does not have is missing, and its standard value says the
same. -/
theorem leavingOut_isNone {answer : Setting → Option String} {leftOut : Setting → Bool}
    (shown : ∀ setting,
      if leftOut setting then answer setting = none else setting.Written config (answer setting)) :
    config.leavingOut (fun setting => (answer setting).isNone) = config.leavingOut leftOut := by
  have same : ∀ setting, setting ≠ .username → setting ≠ .password →
      (answer setting).isNone = leftOut setting := by
    intro setting notUsername notPassword
    have here := shown setting
    cases out : leftOut setting with
    | true =>
      rw [out, if_pos rfl] at here
      rw [here]
      rfl
    | false =>
      rw [out, if_neg Bool.false_ne_true] at here
      have there : ∃ value, answer setting = some value := by
        cases setting with
        | username | password => contradiction
        | _ =>
          obtain ⟨value, given, -⟩ := here
          exact ⟨value, given⟩
      obtain ⟨value, given⟩ := there
      rw [given]
      rfl
  have username := ite_isNone_eq (shown .username)
  have password := ite_isNone_eq (shown .password)
  simp only [leavingOut, Configuration.mk.injEq, same .nodes nofun nofun,
    same .connectTimeout nofun nofun, same .requestTimeout nofun nofun, same .retryMax nofun nofun,
    same .retryWait nofun nofun, same .toleratesBadRequest nofun nofun, true_and, and_true]
  exact ⟨username, password⟩

/-- **Configurations in the environment.** Take a valid configuration whose nodes have no comma and
no white space at their ends, and write its settings to variables, each in any of the ways that it
may be written in, apart from some that are left out. Then the configuration is read with the
standard values for those, if it is still valid; so if none is left out, it is read as it was. -/
theorem ofLookup_written (valid : config.validate = .ok ())
    (correct : ∀ node ∈ config.nodes, IsWord ',' node) (leftOut : Setting → Bool)
    (shown : ∀ setting : Setting,
      let answer := lookup (uppercase stem ++ "_" ++ setting.ending)
      if leftOut setting then answer = none else setting.Written config answer) :
    ofLookup stem lookup = (config.leavingOut leftOut).validated ∧
      ((config.leavingOut leftOut).validate = .ok () →
        ofLookup stem lookup = .ok (config.leavingOut leftOut)) ∧
      ((∀ setting, leftOut setting = false) → ofLookup stem lookup = .ok config) := by
  simp only [← Setting.variableName_eq] at shown
  have written : ∀ setting : Setting, ∀ value, lookup (setting.variableName stem) = some value →
      setting.Written config (some value) := by
    intro setting value given
    have here := shown setting
    rw [given] at here
    split at here
    · cases here
    · exact here
  have read := ofLookup_eq written correct
  rw [leavingOut_isNone shown] at read
  refine ⟨read, ?_, ?_⟩
  · intro kept
    rw [read, validated, kept]
    rfl
  · intro whole
    have all : config.leavingOut leftOut = config := by
      rw [funext whole]
      rfl
    rw [read, all, validated, valid]
    rfl

/-- The greatest numbers, credentials that are not trimmed, and no connect timeout. -/
theorem ofLookup_written_greatest :
    let entries : List (String × String) :=
      [("DATASTORE_NODES", ", http://a:9200\t,, http://b:9200 "),
        ("DATASTORE_USERNAME", " ingest"),
        ("DATASTORE_PASSWORD", "a,b "),
        ("DATASTORE_REQUEST_TIMEOUT_MS", "18446744073709551615\n"),
        ("DATASTORE_RETRY_ATTEMPT_MAX", " 4294967295"),
        ("DATASTORE_RETRY_ATTEMPT_WAIT_MS", "0"),
        ("DATASTORE_DELETE_BY_QUERY_TOLERATES_BAD_REQUEST", " false "),
        ("DATASTORE_INDEX", "metrics-1")]
    ofLookup "datastore" (List.lookup · entries) =
      .ok ⟨["http://a:9200", "http://b:9200"], some " ingest", some "a,b ", 10000,
        18446744073709551615, 4294967295, 0, false⟩ := by
  intro entries
  let config : Configuration := ⟨["http://a:9200", "http://b:9200"], some " ingest", some "a,b ", 1,
    18446744073709551615, 4294967295, 0, false⟩
  let leftOut (setting : Setting) : Bool := decide (setting = .connectTimeout)
  have shown : ∀ setting : Setting,
      let answer := entries.lookup (uppercase "datastore" ++ "_" ++ setting.ending)
      if leftOut setting then answer = none
      else setting.Written config answer := by
    intro setting
    cases setting with
    | nodes =>
      refine ⟨", http://a:9200\t,, http://b:9200 ", by decide, ?_⟩
      have none : Padding ',' [] := by decide
      have space : Padding ',' [' '] := by decide
      have tab : Padding ',' ['\t'] := by decide
      have first : Entry ',' " http://a:9200\t".toList ["http://a:9200"] :=
        .word "http://a:9200" space tab
      have second : Entry ',' " http://b:9200 ".toList ["http://b:9200"] :=
        .word "http://b:9200" space space
      exact .cons (.blank none) (.cons first (.cons (.blank none) (.last second)))
    | username => exact (rfl : some " ingest" = config.username)
    | password => exact (rfl : some "a,b " = config.password)
    | connectTimeout => exact (rfl : none = none)
    | requestTimeout =>
      exact ⟨_, rfl, _, isDecimal_digitsOf _, [], ['\n'], by decide, by decide, by decide⟩
    | retryMax =>
      exact ⟨_, rfl, _, isDecimal_digitsOf _, [' '], [], by decide, by decide, by decide⟩
    | retryWait =>
      exact ⟨_, rfl, _, isDecimal_digitsOf _, [], [], by decide, by decide, by decide⟩
    | toleratesBadRequest =>
      exact ⟨_, rfl, [' '], [' '], by decide, by decide, by decide⟩
  have valid : config.validate = .ok () := rfl
  exact (ofLookup_written valid (by decide) leftOut shown).2.1 rfl

end Configuration

end EngineClient
