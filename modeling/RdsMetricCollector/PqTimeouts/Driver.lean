import RdsMetricCollector.Foundation.Fields
import RdsMetricCollector.Foundation.Runtime
import RdsMetricCollector.Foundation.Slices

/-! # The pq-timeouts driver

The driver takes its own two settings out of a connection string and dials
with the rest. `pq.ParseURL` and the quoting of an error message come from
other packages and are parameters.
-/

namespace RdsMetricCollector.PqTimeouts

open RdsMetricCollector.Runtime
open RdsMetricCollector.Strings

structure Packages where
  parseURL : String → Except String String
  goSyntax : String → String

inductive Failure
  | panic (cause : Panic)
  | err (message : String)
  deriving DecidableEq, Repr

/-- The timeouts in nanoseconds. -/
structure TimeoutDialer where
  readTimeout : Int64
  writeTimeout : Int64
  deriving DecidableEq, Repr

structure TimeoutDriver (Conn : Type) where
  dialOpen : TimeoutDialer → String → Except String Conn

/-- The variables of the loop over the settings. -/
structure OpenVars where
  newConnectionSettings : List String
  dialer : TimeoutDialer
  deriving DecidableEq, Repr

/-- The single quote. -/
def quote : Char := Char.ofNat 39

/-- The value of the setting `name`, split as `s`. -/
def timeoutValue (packages : Packages) (name : String) (s : List String) :
    Except Failure Int64 := do
  let value ← (element s 1).mapError .panic
  let trimmed := trim value [quote]
  match atoi trimmed with
  | none =>
      throw (.err ("Error interpreting value " ++ packages.goSyntax trimmed ++
        " for " ++ name))
  | some val => return val * millisecond

def readSetting (packages : Packages) (vars : OpenVars) (setting : String) :
    Except Failure OpenVars := do
  let s := split setting '='
  let name ← (element s 0).mapError .panic
  if name = "read_timeout" then
    let readTimeout ← timeoutValue packages "read_timeout" s
    return { vars with dialer := { vars.dialer with readTimeout } }
  else if name = "write_timeout" then
    let writeTimeout ← timeoutValue packages "write_timeout" s
    return { vars with dialer := { vars.dialer with writeTimeout } }
  else
    return { vars with newConnectionSettings := vars.newConnectionSettings ++ [setting] }

/-- A connection string that is a URL becomes a list of settings. -/
def expandURL (packages : Packages) (connection : String) : Except Failure String :=
  if HasPrefix connection "postgres://" ∨ HasPrefix connection "postgresql://" then
    (packages.parseURL connection).mapError .err
  else
    .ok connection

def TimeoutDriver.open {Conn : Type} (t : TimeoutDriver Conn) (packages : Packages)
    (connection : String) : Except Failure Conn := do
  let connection ← expandURL packages connection
  let vars ← (fields connection).foldlM (readSetting packages)
    { newConnectionSettings := [], dialer := { readTimeout := 0, writeTimeout := 0 } }
  (t.dialOpen vars.dialer (" ".intercalate vars.newConnectionSettings)).mapError .err

/-! ## Settings -/

/-- The text of a setting in a list that `ParseURL` makes. -/
def settingText (setting : String × String) : String :=
  setting.1 ++ "=" ++ (String.singleton quote ++ setting.2 ++ String.singleton quote)

def isPlain (char : Char) : Bool :=
  char.isAlphanum || char == '.' || char == '_' || char == '-'

/-- A non-empty text of ASCII letters, digits, dots, underscores and dashes. -/
structure PlainWord (text : String) : Prop where
  nonempty : text ≠ ""
  plain : ∀ char ∈ text.toList, isPlain char

instance (text : String) : Decidable (PlainWord text) :=
  decidable_of_iff (text ≠ "" ∧ text.toList.all isPlain)
    ⟨fun both => ⟨both.1, List.all_eq_true.mp both.2⟩,
      fun word => ⟨word.nonempty, List.all_eq_true.mpr word.plain⟩⟩

theorem PlainWord.notMem {text : String} (word : PlainWord text) {char : Char}
    (special : isPlain char = false) : char ∉ text.toList := by
  intro member
  have plain := word.plain char member
  rw [special] at plain
  contradiction

private theorem isSpace_of_isPlain {char : Char} (plain : isPlain char) :
    isSpace char = false := by
  delta isPlain Char.isAlphanum Char.isAlpha Char.isUpper Char.isLower Char.isDigit at plain
  simp only [Bool.or_eq_true, Bool.and_eq_true, decide_eq_true_eq, beq_iff_eq,
    ge_iff_le, UInt32.le_iff_toNat_le] at plain
  rcases plain with ((alphanum | rfl) | rfl) | rfl
  · have code : char.val.toNat = char.toNat := rfl
    simp only [code] at alphanum
    simp only [isSpace, Bool.or_eq_false_iff, Bool.and_eq_false_iff,
      decide_eq_false_iff_not, beq_eq_false_iff_ne]
    simp at alphanum
    omega
  all_goals rfl

variable {setting : String × String}

/-- A setting with a plain key and a plain value. -/
structure PlainSetting (setting : String × String) : Prop where
  key : PlainWord setting.1
  value : PlainWord setting.2

theorem plainSetting {key value : String} (plainKey : PlainWord key)
    (plainValue : PlainWord value) : PlainSetting (key, value) :=
  ⟨plainKey, plainValue⟩

private theorem PlainSetting.split_eq (plain : PlainSetting setting) :
    split (settingText setting) '=' =
      [setting.1, String.singleton quote ++ setting.2 ++ String.singleton quote] := by
  have value : '=' ∉
      (String.singleton quote ++ setting.2 ++ String.singleton quote).toList := by
    have missing := plain.value.notMem (show isPlain '=' = false from rfl)
    simp [missing, quote]
  rw [settingText, split_append rfl (plain.key.notMem rfl), split_eq_singleton value]

theorem PlainSetting.isField (plain : PlainSetting setting) :
    IsField (settingText setting) where
  nonempty := by
    simp [settingText]
  unbroken := by
    intro char member
    simp only [settingText, String.toList_append, List.mem_append,
      String.toList_singleton, List.mem_singleton] at member
    rcases member with (key | equals) | (opening | value) | closing
    · exact isSpace_of_isPlain (plain.key.plain char key)
    · rw [List.mem_singleton.mp equals]
      rfl
    · rw [opening]
      rfl
    · exact isSpace_of_isPlain (plain.value.plain char value)
    · rw [closing]
      rfl

/-! ## The loop over the settings -/

variable {packages : Packages}

private theorem PlainSetting.timeoutValue_eq (plain : PlainSetting setting) {val : Int64}
    (format : setting.2 = formatInt val) (name : String) :
    timeoutValue packages name (split (settingText setting) '=') =
      .ok (val * millisecond) := by
  have trimmed := trim_quoted plain.value.nonempty
    (plain.value.notMem (show isPlain quote = false from rfl))
  have read : atoi setting.2 = some val := format ▸ atoi_formatInt val
  have second : element (split (settingText setting) '=') 1 =
      .ok (String.singleton quote ++ setting.2 ++ String.singleton quote) := by
    rw [plain.split_eq]
    rfl
  simp only [timeoutValue, second, Except.mapError, bind, Except.bind, trimmed, read]
  rfl

/-- The settings that the driver does not read itself. -/
def passedOn (setting : String × String) : Bool :=
  setting.1 ≠ "read_timeout" ∧ setting.1 ≠ "write_timeout"

/-- A timeout after the loop, given the value before it. -/
def timeoutAfter (settings : List (String × String)) (name : String)
    (val initial : Int64) : Int64 :=
  if name ∈ settings.map Prod.fst then val * millisecond else initial

/-- The variables of the loop after `settings`. -/
def OpenVars.after (vars : OpenVars) (settings : List (String × String))
    (read write : Int64) : OpenVars where
  newConnectionSettings :=
    vars.newConnectionSettings ++ (settings.filter passedOn).map settingText
  dialer :=
    { readTimeout := timeoutAfter settings "read_timeout" read vars.dialer.readTimeout
      writeTimeout := timeoutAfter settings "write_timeout" write vars.dialer.writeTimeout }

private theorem timeoutAfter_timeoutAfter (first rest : List (String × String))
    (name : String) (val initial : Int64) :
    timeoutAfter rest name val (timeoutAfter first name val initial) =
      timeoutAfter (first ++ rest) name val initial := by
  simp only [timeoutAfter, List.map_append, List.mem_append]
  split_ifs <;> simp_all

private theorem OpenVars.after_after (vars : OpenVars) (first rest : List (String × String))
    (read write : Int64) :
    (vars.after first read write).after rest read write =
      vars.after (first ++ rest) read write := by
  simp only [OpenVars.after, timeoutAfter_timeoutAfter, List.filter_append,
    List.map_append, List.append_assoc]

private theorem PlainSetting.readSetting_eq (plain : PlainSetting setting) {read write : Int64}
    (reads : setting.1 = "read_timeout" → setting.2 = formatInt read)
    (writes : setting.1 = "write_timeout" → setting.2 = formatInt write)
    (vars : OpenVars) :
    readSetting packages vars (settingText setting) =
      .ok (vars.after [setting] read write) := by
  have first : element (split (settingText setting) '=') 0 = .ok setting.1 := by
    rw [plain.split_eq]
    rfl
  simp only [readSetting, first, Except.mapError, bind, Except.bind]
  by_cases isRead : setting.1 = "read_timeout"
  · rw [if_pos isRead, plain.timeoutValue_eq (reads isRead)]
    simp [OpenVars.after, timeoutAfter, passedOn, isRead, pure, Except.pure]
  · by_cases isWrite : setting.1 = "write_timeout"
    · rw [if_neg isRead, if_pos isWrite, plain.timeoutValue_eq (writes isWrite)]
      simp [OpenVars.after, timeoutAfter, passedOn, isWrite, pure, Except.pure]
    · rw [if_neg isRead, if_neg isWrite]
      simp [OpenVars.after, timeoutAfter, passedOn, isRead, isWrite, Ne.symm isRead,
        Ne.symm isWrite, pure, Except.pure]

/-- The loop on settings whose timeouts have the given values, if they occur. -/
theorem foldlM_readSetting_eq {settings : List (String × String)} {read write : Int64}
    (plain : ∀ setting ∈ settings, PlainSetting setting)
    (reads : ∀ setting ∈ settings, setting.1 = "read_timeout" →
      setting.2 = formatInt read)
    (writes : ∀ setting ∈ settings, setting.1 = "write_timeout" →
      setting.2 = formatInt write)
    (vars : OpenVars) :
    (settings.map settingText).foldlM (readSetting packages) vars =
      .ok (vars.after settings read write) := by
  induction settings generalizing vars with
  | nil => simp [OpenVars.after, timeoutAfter, pure, Except.pure]
  | cons setting settings induction =>
      rw [List.forall_mem_cons] at plain reads writes
      rw [List.map_cons, List.foldlM_cons,
        plain.1.readSetting_eq reads.1 writes.1 vars]
      have rest := induction plain.2 reads.2 writes.2 (vars.after [setting] read write)
      rw [OpenVars.after_after] at rest
      exact rest

end RdsMetricCollector.PqTimeouts
