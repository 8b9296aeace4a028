import RdsMetricCollector.PqTimeouts.Driver

/-! # Connection URLs

What the driver makes of a URL whose parts need no escapes, given what
`pq.ParseURL` is documented to do with it.
-/

namespace RdsMetricCollector.PqTimeouts

open RdsMetricCollector.Runtime
open RdsMetricCollector.Strings

variable {packages : Packages}

/-- A URL whose parts need no escapes. -/
structure PlainURL where
  user : String
  password : String
  host : String
  port : Nat
  dbname : String
  query : List (String × String)
  words : ∀ part ∈ [user, password, host, dbname], PlainWord part
  validPort : port ≤ 65535
  plainQuery : ∀ setting ∈ query, PlainSetting setting
  someQuery : query ≠ []
  distinctKeys : (query.map Prod.fst).Nodup

namespace PlainURL

def queryText (setting : String × String) : String :=
  setting.1 ++ "=" ++ setting.2

def rawQuery (url : PlainURL) : String :=
  "&".intercalate (url.query.map queryText)

def userinfo (url : PlainURL) : String :=
  url.user ++ ":" ++ url.password

def hostport (url : PlainURL) : String :=
  url.host ++ ":" ++ toString url.port

/-- The path and the query. -/
def path (url : PlainURL) : String :=
  url.dbname ++ "?" ++ url.rawQuery

/-- What follows the scheme. -/
def address (url : PlainURL) : String :=
  url.userinfo ++ "@" ++ (url.hostport ++ "/" ++ url.path)

def text (url : PlainURL) : String :=
  "postgresql://" ++ url.address

def settings (url : PlainURL) : List (String × String) :=
  [("user", url.user), ("password", url.password), ("host", url.host),
    ("port", toString url.port), ("dbname", url.dbname)] ++ url.query

end PlainURL

/-- What `pq.ParseURL` is documented to do: it yields the settings of a URL in
the order of their texts. -/
def ParsesURLs (parseURL : String → Except String String) : Prop :=
  ∀ url : PlainURL, ∃ settings : List (String × String),
    settings.Perm url.settings ∧
    (settings.map settingText).Pairwise (· ≤ ·) ∧
    parseURL url.text = .ok (" ".intercalate (settings.map settingText))

private theorem isPlain_of_isDigit {char : Char} (digit : char.isDigit) : isPlain char := by
  simp [isPlain, Char.isAlphanum, digit]

private theorem plainWord_repr (value : Nat) : PlainWord value.repr where
  nonempty := by
    have digits : value.repr.toList ≠ [] := by
      rw [Nat.toList_repr]
      exact Nat.toDigits_ne_nil
    rwa [ne_eq, String.toList_eq_nil_iff] at digits
  plain := by
    intro char member
    rw [Nat.toList_repr] at member
    exact isPlain_of_isDigit (Nat.isDigit_of_mem_toDigits (by decide) (by decide) member)

theorem plainWord_formatInt (value : Int64) : PlainWord (formatInt value) := by
  rw [formatInt]
  cases value.toInt with
  | ofNat magnitude => exact plainWord_repr magnitude
  | negSucc magnitude =>
      have digits := plainWord_repr (magnitude + 1)
      have text : toString (Int.negSucc magnitude) = "-" ++ (magnitude + 1).repr := rfl
      refine ⟨?_, ?_⟩
      · simp [text]
      · intro char member
        rw [text, String.toList_append, List.mem_append] at member
        rcases member with sign | digit
        · rw [List.mem_singleton.mp sign]
          rfl
        · exact digits.plain char digit

private theorem PlainURL.plainSettings (url : PlainURL) :
    ∀ setting ∈ url.settings, PlainSetting setting := by
  have words := url.words
  simp only [List.forall_mem_cons, List.not_mem_nil, false_implies, implies_true,
    and_true] at words
  rcases words with ⟨user, password, host, dbname⟩
  intro setting member
  rcases List.mem_append.mp member with fixed | queried
  · simp only [List.mem_cons, List.not_mem_nil, or_false] at fixed
    rcases fixed with rfl | rfl | rfl | rfl | rfl
    · exact plainSetting (by decide) user
    · exact plainSetting (by decide) password
    · exact plainSetting (by decide) host
    · exact plainSetting (by decide) (plainWord_repr url.port)
    · exact plainSetting (by decide) dbname
  · exact url.plainQuery setting queried

private theorem PlainURL.expandURL_eq (url : PlainURL) {settings : String}
    (parsed : packages.parseURL url.text = .ok settings) :
    expandURL packages url.text = .ok settings := by
  have scheme : HasPrefix url.text "postgresql://" := hasPrefix_append _ url.address
  rw [expandURL, if_pos (Or.inr scheme), parsed]
  rfl

/-- Opening a plain URL with both timeouts dials with their values and passes on
exactly the other settings. -/
theorem open_plainURL (parses : ParsesURLs packages.parseURL) (url : PlainURL)
    {read write : Int64} {others : List (String × String)}
    (arrangement : url.settings.Perm
      (others ++ [("read_timeout", formatInt read), ("write_timeout", formatInt write)]))
    (unrelated : ∀ setting ∈ others, passedOn setting) :
    ∃ settings : List (String × String),
      settings.Perm others ∧ (settings.map settingText).Pairwise (· ≤ ·) ∧
      ∀ {Conn : Type} (t : TimeoutDriver Conn),
        t.open packages url.text =
          (t.dialOpen
            { readTimeout := read * millisecond, writeTimeout := write * millisecond }
            (" ".intercalate (settings.map settingText))).mapError .err := by
  rcases parses url with ⟨settings, order, sorted, parsed⟩
  have contents := order.trans arrangement
  have plain : ∀ setting ∈ settings, PlainSetting setting := by
    intro setting member
    exact url.plainSettings setting (order.mem_iff.mp member)
  have kept : (settings.filter passedOn).Perm others := by
    have filtered := contents.filter passedOn
    rw [List.filter_append, List.filter_eq_self.mpr unrelated] at filtered
    simpa [passedOn] using filtered
  have named : ∀ setting ∈ settings, passedOn setting ∨
      setting = ("read_timeout", formatInt read) ∨
      setting = ("write_timeout", formatInt write) := by
    intro setting member
    rcases List.mem_append.mp (contents.mem_iff.mp member) with other | timeout
    · exact Or.inl (unrelated setting other)
    · right
      simpa using timeout
  have reads : ∀ setting ∈ settings, setting.1 = "read_timeout" →
      setting.2 = formatInt read := by
    intro setting member isRead
    rcases named setting member with passed | rfl | rfl
    · simp [passedOn, isRead] at passed
    · rfl
    · exact absurd isRead (by decide : "write_timeout" ≠ "read_timeout")
  have writes : ∀ setting ∈ settings, setting.1 = "write_timeout" →
      setting.2 = formatInt write := by
    intro setting member isWrite
    rcases named setting member with passed | rfl | rfl
    · simp [passedOn, isWrite] at passed
    · exact absurd isWrite (by decide : "read_timeout" ≠ "write_timeout")
    · rfl
  have areFields : ∀ part ∈ settings.map settingText, IsField part := by
    intro part member
    rcases List.mem_map.mp member with ⟨setting, listed, rfl⟩
    exact (plain setting listed).isField
  have readOccurs : "read_timeout" ∈ settings.map Prod.fst := by
    simp [(contents.map Prod.fst).mem_iff]
  have writeOccurs : "write_timeout" ∈ settings.map Prod.fst := by
    simp [(contents.map Prod.fst).mem_iff]
  refine ⟨settings.filter passedOn, kept,
    sorted.sublist (List.filter_sublist.map settingText), ?_⟩
  intro Conn t
  simp only [TimeoutDriver.open, url.expandURL_eq parsed, bind, Except.bind]
  rw [fields_intercalate areFields, foldlM_readSetting_eq plain reads writes]
  simp only [OpenVars.after, timeoutAfter, if_pos readOccurs, if_pos writeOccurs,
    List.nil_append]

/-! ## A parser of plain URLs -/

/-- The two parts of a text around the only occurrence of a separator. -/
def splitPair (text : String) (separator : Char) : Option (String × String) :=
  match split text separator with
  | [first, second] => some (first, second)
  | _ => none

theorem splitPair_append {first second separatorText : String} {separator : Char}
    (isSeparator : separatorText.toList = [separator])
    (firstFree : separator ∉ first.toList) (secondFree : separator ∉ second.toList) :
    splitPair (first ++ separatorText ++ second) separator = some (first, second) := by
  rw [splitPair, split_append isSeparator firstFree, split_eq_singleton secondFree]

/-- The settings of a URL without escapes, in the order of the URL. -/
def urlSettings (text : String) : Option (List (String × String)) := do
  let (userinfo, location) ← splitPair (trimPrefix text "postgresql://") '@'
  let (user, password) ← splitPair userinfo ':'
  let (hostport, path) ← splitPair location '/'
  let (host, port) ← splitPair hostport ':'
  let (dbname, rawQuery) ← splitPair path '?'
  let query ← (split rawQuery '&').mapM (splitPair · '=')
  return [("user", user), ("password", password), ("host", host), ("port", port),
    ("dbname", dbname)] ++ query

def parsePlainURL (text : String) : Except String String :=
  match urlSettings text with
  | none => .error "invalid connection URL"
  | some settings =>
      .ok (" ".intercalate ((settings.mergeSort fun left right =>
        settingText left ≤ settingText right).map settingText))

namespace PlainURL

/-- A separator occurs in none of the fixed parts of a plain URL. -/
theorem notMem (url : PlainURL) {char : Char} (special : isPlain char = false) :
    char ∉ url.user.toList ∧ char ∉ url.password.toList ∧ char ∉ url.host.toList ∧
      char ∉ (toString url.port).toList ∧ char ∉ url.dbname.toList := by
  have words := url.words
  simp only [List.forall_mem_cons, List.not_mem_nil, false_implies, implies_true,
    and_true] at words
  rcases words with ⟨user, password, host, dbname⟩
  exact ⟨user.notMem special, password.notMem special, host.notMem special,
    (plainWord_repr url.port).notMem special, dbname.notMem special⟩

private theorem notMem_queryText {setting : String × String} (plain : PlainSetting setting)
    {char : Char} (special : isPlain char = false) (notEquals : char ≠ '=') :
    char ∉ (queryText setting).toList := by
  have key := plain.key.notMem special
  have value := plain.value.notMem special
  simp [queryText, key, value, notEquals]

private theorem notMem_rawQuery (url : PlainURL) {char : Char} (special : isPlain char = false)
    (notEquals : char ≠ '=') (notAmpersand : char ≠ '&') :
    char ∉ url.rawQuery.toList := by
  apply notMem_intercalate (by simpa using notAmpersand)
  intro part member
  rcases List.mem_map.mp member with ⟨setting, listed, rfl⟩
  exact notMem_queryText (url.plainQuery setting listed) special notEquals

private theorem split_rawQuery (url : PlainURL) :
    split url.rawQuery '&' = url.query.map queryText := by
  apply split_intercalate rfl
  · simpa using url.someQuery
  · intro part member
    rcases List.mem_map.mp member with ⟨setting, listed, rfl⟩
    exact notMem_queryText (url.plainQuery setting listed) rfl (by decide)

private theorem mapM_splitPair {query : List (String × String)}
    (plain : ∀ setting ∈ query, PlainSetting setting) :
    (query.map queryText).mapM (splitPair · '=') = some query := by
  induction query with
  | nil => rfl
  | cons setting query induction =>
      rw [List.forall_mem_cons] at plain
      have pair : splitPair (queryText setting) '=' = some setting :=
        splitPair_append rfl (plain.1.key.notMem rfl) (plain.1.value.notMem rfl)
      rw [List.map_cons, List.mapM_cons, pair, induction plain.2]
      rfl

private theorem splitPair_userinfo (url : PlainURL) :
    splitPair url.userinfo ':' = some (url.user, url.password) := by
  have free := url.notMem (show isPlain ':' = false from rfl)
  exact splitPair_append rfl free.1 free.2.1

private theorem splitPair_hostport (url : PlainURL) :
    splitPair url.hostport ':' = some (url.host, toString url.port) := by
  have free := url.notMem (show isPlain ':' = false from rfl)
  exact splitPair_append rfl free.2.2.1 free.2.2.2.1

private theorem splitPair_path (url : PlainURL) :
    splitPair url.path '?' = some (url.dbname, url.rawQuery) := by
  have free := url.notMem (show isPlain '?' = false from rfl)
  exact splitPair_append rfl free.2.2.2.2 (url.notMem_rawQuery rfl (by decide) (by decide))

private theorem splitPair_location (url : PlainURL) :
    splitPair (url.hostport ++ "/" ++ url.path) '/' = some (url.hostport, url.path) := by
  have free := url.notMem (show isPlain '/' = false from rfl)
  have queryFree := url.notMem_rawQuery (show isPlain '/' = false from rfl)
    (by decide) (by decide)
  apply splitPair_append rfl
  · simp only [hostport, String.toList_append, List.mem_append, free, false_or, or_false]
    decide
  · simp only [path, String.toList_append, List.mem_append, free, queryFree, false_or,
      or_false]
    decide

private theorem splitPair_address (url : PlainURL) :
    splitPair url.address '@' =
      some (url.userinfo, url.hostport ++ "/" ++ url.path) := by
  have free := url.notMem (show isPlain '@' = false from rfl)
  have queryFree := url.notMem_rawQuery (show isPlain '@' = false from rfl)
    (by decide) (by decide)
  apply splitPair_append rfl
  · simp only [userinfo, String.toList_append, List.mem_append, free, false_or, or_false]
    decide
  · simp only [hostport, path, String.toList_append, List.mem_append, free, queryFree,
      false_or, or_false]
    decide

private theorem urlSettings_text (url : PlainURL) :
    urlSettings url.text = some url.settings := by
  unfold urlSettings text
  rw [trimPrefix_append, splitPair_address]
  simp only [Option.bind_eq_bind, Option.bind_some, splitPair_userinfo,
    splitPair_location, splitPair_hostport, splitPair_path, split_rawQuery,
    mapM_splitPair url.plainQuery]
  rfl

end PlainURL

theorem parsesURLs_parsePlainURL : ParsesURLs parsePlainURL := by
  intro url
  refine ⟨url.settings.mergeSort fun left right => settingText left ≤ settingText right,
    List.mergeSort_perm _ _, ?_, ?_⟩
  · rw [List.pairwise_map]
    have sorted : (url.settings.mergeSort fun left right =>
        settingText left ≤ settingText right).Pairwise fun left right =>
          decide (settingText left ≤ settingText right) := by
      apply List.pairwise_mergeSort
      · intro left middle right
        simp only [decide_eq_true_eq]
        exact String.le_trans
      · intro left right
        simpa using String.le_total (settingText left) (settingText right)
    exact sorted.imp of_decide_eq_true
  · unfold parsePlainURL
    rw [url.urlSettings_text]

end RdsMetricCollector.PqTimeouts
