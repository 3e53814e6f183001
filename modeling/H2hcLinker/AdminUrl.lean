import H2hcLinker.Config

/-! The admin url that a configuration registers with, as a url. Which public urls are accepted is
decided on what they parse to; the rewriting goes by their first characters. -/
namespace H2hcLinker.Config

open Registration

variable {parsers : Parsers} {env : Environment} {config : Configuration}
  {registration : RegistrationConfig} {publicUrl : String}

/-- A scheme as it is written: a letter, then letters, digits, `+`, `-` or `.`. -/
def isScheme : List Char → Bool
  | [] => false
  | c :: rest => c.isAlpha && rest.all fun c => c.isAlphanum || c = '+' || c = '-' || c = '.'

/-- `to_ascii_lowercase`. -/
def lowercase (s : String) : String := .ofList (s.toList.map Char.toLower)

/-- What is documented of `Url::parse`: a scheme may be written in any letter case and is reported in
lower case, and the WebSocket schemes are read like those of HTTP. -/
structure ReadsSchemes (parse : String → Except String Url) : Prop where
  reported : ∀ name rest url, isScheme name.toList = true → parse (name ++ ":" ++ rest) = .ok url →
    url.scheme = lowercase name
  anyCase : ∀ name other rest, isScheme name.toList = true → isScheme other.toList = true →
    lowercase name = lowercase other → parse (name ++ ":" ++ rest) = parse (other ++ ":" ++ rest)
  secure : ∀ rest, (parse ("wss://" ++ rest)).map Url.rest = (parse ("https://" ++ rest)).map Url.rest
  plain : ∀ rest, (parse ("ws://" ++ rest)).map Url.rest = (parse ("http://" ++ rest)).map Url.rest

/-- The admin url is the public one under the HTTP scheme that goes with its own. -/
def UsableAdminUrl (parse : String → Except String Url) (publicUrl adminUrl : String) : Prop :=
  ∃ url admin, parse publicUrl = .ok url ∧ parse adminUrl = .ok admin ∧
    (url.scheme = "wss" ∨ url.scheme = "https" → admin.scheme = "https") ∧
    (url.scheme = "ws" ∨ url.scheme = "http" → admin.scheme = "http") ∧ admin.rest = url.rest

def StartsWith (pre s : String) : Prop := pre.toList <+: s.toList

/-- The url is an HTTP one, or is written with its WebSocket scheme in lower case and two slashes. -/
def Rewritable (parse : String → Except String Url) (publicUrl : String) : Prop :=
  (∃ url, parse publicUrl = .ok url ∧ (url.scheme = "http" ∨ url.scheme = "https")) ∨
    StartsWith "wss://" publicUrl ∨ StartsWith "ws://" publicUrl

theorem ok_of_bind {α β : Type} {x : Except String α} {f : α → Except String β} {b : β}
    (ok : x >>= f = .ok b) : ∃ a, x = .ok a ∧ f a = .ok b := by
  cases x with
  | error e => cases ok
  | ok a => exact ⟨a, rfl, ok⟩

theorem fromEnv_registration (accepted : fromEnv parsers env = .ok config) :
    registrationFromEnv parsers env = .ok config.registration := by
  unfold fromEnv at accepted
  obtain ⟨conductorUrl, _, accepted⟩ := ok_of_bind accepted
  obtain ⟨bootstrapUrl, _, accepted⟩ := ok_of_bind accepted
  obtain ⟨payloadLimitBytes, _, accepted⟩ := ok_of_bind accepted
  obtain ⟨zomeCallMillis, _, accepted⟩ := ok_of_bind accepted
  obtain ⟨report, _, accepted⟩ := ok_of_bind accepted
  obtain ⟨registration, read, accepted⟩ := ok_of_bind accepted
  obtain ⟨sessionStore, _, accepted⟩ := ok_of_bind accepted
  cases accepted
  exact read

theorem checkUrl_ok {variableName url spelled : String} {schemes : List String}
    (ok : checkUrl parsers variableName url schemes spelled = .ok ()) :
    ∃ parsed, parsers.url url = .ok parsed ∧ parsed.scheme ∈ schemes := by
  unfold checkUrl at ok
  split at ok
  next => cases ok
  next parsed read =>
    split at ok
    next listed => exact ⟨parsed, read, listed⟩
    next => cases ok

/-- A configuration with a public url registers under it, and its scheme is one of the four. -/
theorem fromEnv_publicUrl (accepted : fromEnv parsers env = .ok config)
    (set : env "H2HC_LINKER_PUBLIC_URL" = some publicUrl) :
    ∃ registration, config.registration = some registration ∧ registration.publicUrl = publicUrl ∧
      ∃ url, parsers.url publicUrl = .ok url ∧ url.scheme ∈ ["ws", "wss", "http", "https"] := by
  have read := fromEnv_registration accepted
  unfold registrationFromEnv at read
  rw [set] at read
  cases joining : env "H2HC_LINKER_JOINING_SERVICE_URL" with
  | none =>
    rw [joining] at read
    cases read
  | some jsUrl =>
    rw [joining] at read
    obtain ⟨_, _, read⟩ := ok_of_bind read
    obtain ⟨_, checked, read⟩ := ok_of_bind read
    exact ⟨_, (Except.ok.inj read).symm, rfl, checkUrl_ok checked⟩

theorem startsWith_iff {pre s : String} : StartsWith pre s ↔ ∃ rest, s = pre ++ rest := by
  constructor
  · rintro ⟨rest, same⟩
    exact ⟨.ofList rest, String.toList_injective (by simp [same])⟩
  · rintro ⟨rest, rfl⟩
    exact ⟨rest.toList, by simp⟩

theorem isPrefixOf?_append (pre rest : String) :
    pre.toList.isPrefixOf? (pre ++ rest).toList = some rest.toList := by
  rw [List.isPrefixOf?_eq_some_iff_append_eq, String.toList_append]

theorem isPrefixOf?_none {pre s : String} (other : ¬StartsWith pre s) :
    pre.toList.isPrefixOf? s.toList = none := by
  rw [Option.eq_none_iff_forall_ne_some]
  intro rest found
  exact other ⟨rest, List.isPrefixOf?_eq_some_iff_append_eq.mp found⟩

theorem adminUrl_wss {rest : String} (written : registration.publicUrl = "wss://" ++ rest) :
    registration.adminUrl = "https://" ++ rest := by
  rw [RegistrationConfig.adminUrl, written, isPrefixOf?_append]
  simp

theorem adminUrl_ws {rest : String} (written : registration.publicUrl = "ws://" ++ rest) :
    registration.adminUrl = "http://" ++ rest := by
  have other : ¬StartsWith "wss://" ("ws://" ++ rest) := by
    rintro ⟨more, same⟩
    simp at same
  rw [RegistrationConfig.adminUrl, written, isPrefixOf?_none other, isPrefixOf?_append]
  simp

theorem adminUrl_other (secure : ¬StartsWith "wss://" registration.publicUrl)
    (plain : ¬StartsWith "ws://" registration.publicUrl) :
    registration.adminUrl = registration.publicUrl := by
  rw [RegistrationConfig.adminUrl, isPrefixOf?_none secure, isPrefixOf?_none plain]

theorem append_slashes (name rest : String) : name ++ "://" ++ rest = name ++ ":" ++ ("//" ++ rest) := by
  simp [← String.toList_inj]

/-- A url that is written with the scheme and two slashes has that scheme. -/
theorem ReadsSchemes.written {parse : String → Except String Url} (reads : ReadsSchemes parse)
    (name rest : String) (scheme : isScheme name.toList = true) (lower : lowercase name = name)
    {url : Url} (read : parse (name ++ "://" ++ rest) = .ok url) : url.scheme = name := by
  rw [append_slashes] at read
  exact (reads.reported name _ url scheme read).trans lower

/-- What is read alike is read with the same rest. -/
theorem read_alike {parse : String → Except String Url} {one other : String} {url : Url}
    (alike : (parse one).map Url.rest = (parse other).map Url.rest) (read : parse one = .ok url) :
    ∃ admin, parse other = .ok admin ∧ admin.rest = url.rest := by
  rw [read] at alike
  cases found : parse other with
  | error e =>
    rw [found] at alike
    cases alike
  | ok admin =>
    rw [found] at alike
    exact ⟨admin, rfl, (Except.ok.inj alike).symm⟩

theorem usable_wss {parse : String → Except String Url} (reads : ReadsSchemes parse) {url : Url}
    {rest : String} (written : registration.publicUrl = "wss://" ++ rest)
    (read : parse registration.publicUrl = .ok url) :
    UsableAdminUrl parse registration.publicUrl registration.adminUrl := by
  rw [written] at read
  have scheme := reads.written "wss" rest (by decide) (by decide) read
  obtain ⟨admin, found, rest⟩ := read_alike (reads.secure rest) read
  have swapped := reads.written "https" _ (by decide) (by decide) found
  rw [adminUrl_wss written, written]
  exact ⟨url, admin, read, found, fun _ => swapped, by simp [scheme], rest⟩

theorem usable_ws {parse : String → Except String Url} (reads : ReadsSchemes parse) {url : Url}
    {rest : String} (written : registration.publicUrl = "ws://" ++ rest)
    (read : parse registration.publicUrl = .ok url) :
    UsableAdminUrl parse registration.publicUrl registration.adminUrl := by
  rw [written] at read
  have scheme := reads.written "ws" rest (by decide) (by decide) read
  obtain ⟨admin, found, rest⟩ := read_alike (reads.plain rest) read
  have swapped := reads.written "http" _ (by decide) (by decide) found
  rw [adminUrl_ws written, written]
  exact ⟨url, admin, read, found, by simp [scheme], fun _ => swapped, rest⟩

/-- The public url that a configuration is accepted with has its HTTP form as the admin url exactly if
it is an HTTP one already or begins with `wss://` or `ws://` as the rewriting looks for them. -/
theorem adminUrl_usable_iff (parsers : Parsers) (reads : ReadsSchemes parsers.url) (env : Environment)
    (config : Configuration) (publicUrl : String) (accepted : fromEnv parsers env = .ok config)
    (set : env "H2HC_LINKER_PUBLIC_URL" = some publicUrl) :
    ∃ registration, config.registration = some registration ∧ registration.publicUrl = publicUrl ∧
      (UsableAdminUrl parsers.url publicUrl registration.adminUrl ↔
        Rewritable parsers.url publicUrl) := by
  obtain ⟨registration, registers, rfl, url, read, listed⟩ := fromEnv_publicUrl accepted set
  refine ⟨registration, registers, rfl, ?_⟩
  by_cases secure : StartsWith "wss://" registration.publicUrl
  · obtain ⟨rest, written⟩ := startsWith_iff.mp secure
    exact iff_of_true (usable_wss reads written read) (.inr (.inl secure))
  · by_cases plain : StartsWith "ws://" registration.publicUrl
    · obtain ⟨rest, written⟩ := startsWith_iff.mp plain
      exact iff_of_true (usable_ws reads written read) (.inr (.inr plain))
    · rw [adminUrl_other secure plain]
      constructor
      · rintro ⟨url', admin, read', found, https, http, _⟩
        -- The admin url is the public one, and so is its scheme.
        cases read'.symm.trans read
        cases found.symm.trans read
        simp only [List.mem_cons, List.not_mem_nil, or_false] at listed
        rcases listed with ws | wss | known
        · exact .inl ⟨url, read, .inl (http (.inl ws))⟩
        · exact .inl ⟨url, read, .inr (https (.inl wss))⟩
        · exact .inl ⟨url, read, known⟩
      · rintro (⟨url', read', known⟩ | starts | starts)
        · cases read'.symm.trans read
          refine ⟨url, url, read, read, fun other => ?_, fun other => ?_, rfl⟩
          · rcases other with wss | https
            · simp [wss] at known
            · exact https
          · rcases other with ws | http
            · simp [ws] at known
            · exact http
        · exact absurd starts secure
        · exact absurd starts plain

/-- Of the urls with a host, the path that is added to an empty one; all else as it is written. -/
def sampleRest : List Char → Except String String
  | '/' :: '/' :: authority =>
    if authority = [] then .error "empty host"
    else .ok ("://" ++ .ofList authority ++ if '/' ∈ authority then "" else "/")
  | rest => .ok (":" ++ .ofList rest)

def sampleParse (s : String) : Except String Url :=
  let name := s.toList.takeWhile (· ≠ ':')
  match s.toList.dropWhile (· ≠ ':') with
  | ':' :: rest =>
    if isScheme name then (sampleRest rest).map (⟨lowercase (.ofList name), ·⟩)
    else .error "relative URL without a base"
  | _ => .error "relative URL without a base"

theorem isScheme_no_colon {name : List Char} (scheme : isScheme name = true) :
    ∀ c ∈ name, c ≠ ':' := by
  cases name with
  | nil => cases scheme
  | cons first rest =>
    simp only [isScheme, Bool.and_eq_true, List.all_eq_true] at scheme
    rintro c member rfl
    rcases List.mem_cons.mp member with rfl | later
    · exact absurd scheme.1 (by decide)
    · exact absurd (scheme.2 ':' later) (by decide)

theorem sampleParse_scheme (name rest : String) (scheme : isScheme name.toList = true) :
    sampleParse (name ++ ":" ++ rest) = (sampleRest rest.toList).map (⟨lowercase name, ·⟩) := by
  have before : ∀ c ∈ name.toList, decide (c ≠ ':') = true := fun c member =>
    decide_eq_true (isScheme_no_colon scheme c member)
  unfold sampleParse
  simp only [String.toList_append, List.append_assoc, List.takeWhile_append_of_pos before,
    List.dropWhile_append_of_pos before]
  simp [scheme]

theorem sampleParse_slashes (name rest : String) (scheme : isScheme name.toList = true) :
    (sampleParse (name ++ "://" ++ rest)).map Url.rest = sampleRest ("//" ++ rest).toList := by
  rw [append_slashes, sampleParse_scheme name _ scheme]
  cases sampleRest ("//" ++ rest).toList <;> rfl

theorem sampleParse_readsSchemes : ReadsSchemes sampleParse where
  reported name rest url scheme read := by
    rw [sampleParse_scheme name rest scheme] at read
    cases parsed : sampleRest rest.toList with
    | error e =>
      rw [parsed] at read
      cases read
    | ok rest =>
      rw [parsed] at read
      cases read
      rfl
  anyCase name other rest scheme spelled same := by
    rw [sampleParse_scheme name rest scheme, sampleParse_scheme other rest spelled, same]
  secure rest := (sampleParse_slashes "wss" rest (by decide)).trans
    (sampleParse_slashes "https" rest (by decide)).symm
  plain rest := (sampleParse_slashes "ws" rest (by decide)).trans
    (sampleParse_slashes "http" rest (by decide)).symm

def sampleParsers : Parsers where
  url := sampleParse
  socketAddr _ := .error "invalid socket address syntax"
  toLowercase := lowercase

/-- A linker that registers with a joining service under the url. -/
def registersAs (publicUrl : String) : Environment
  | "H2HC_LINKER_BOOTSTRAP_URL" => some "http://127.0.0.1:5000"
  | "H2HC_LINKER_JOINING_SERVICE_URL" => some "http://js"
  | "H2HC_LINKER_PUBLIC_URL" => some publicUrl
  | _ => none

theorem adminUrl_usable_wss : UsableAdminUrl sampleParse "wss://host:8090" "https://host:8090" := by
  obtain ⟨registration, registers, written, iff⟩ := adminUrl_usable_iff sampleParsers
    sampleParse_readsSchemes (registersAs "wss://host:8090") _ _ rfl rfl
  cases registers
  exact iff.mpr (.inr (.inl ⟨_, rfl⟩))

/-- A scheme in capitals is accepted, and the rewriting does not see it. -/
theorem adminUrl_not_usable :
    ¬∀ (parsers : Parsers) (env : Environment) (config : Configuration) (publicUrl : String),
      ReadsSchemes parsers.url → fromEnv parsers env = .ok config →
      env "H2HC_LINKER_PUBLIC_URL" = some publicUrl →
      ∃ registration, config.registration = some registration ∧
        UsableAdminUrl parsers.url publicUrl registration.adminUrl := by
  intro always
  obtain ⟨registration, registers, url, admin, read, found, https, _⟩ := always sampleParsers
    (registersAs "WSS://host:8090") _ _ sampleParse_readsSchemes rfl rfl
  cases registers
  have parsed : sampleParse "WSS://host:8090" = .ok ⟨"wss", "://host:8090/"⟩ := rfl
  cases parsed.symm.trans read
  cases parsed.symm.trans found
  exact absurd (https (.inl rfl)) (by decide)

end H2hcLinker.Config
