import Mathlib.Data.List.Basic
import NodeFleet.Install.Client
import NodeFleet.Proofs.Digits
import NodeFleet.Proofs.Panel

/-!
# The call of the ssh client

The arguments of the client are read as the client reads them: options with their values up to the
mark that ends the options, then the account and the command. Whatever texts there are in
credentials that are accepted, they are read as the values that they are given for. The arguments
tell these values back; a password is not among them.
-/

namespace NodeFleet

/-! ### Accepted credentials -/

/-- A word that stands for a host or for a user: the client takes it neither for an option nor for
several words, and it does not end where an account has its `@`. -/
structure IsAccountWord (s : String) : Prop where
  nonempty : s ≠ ""
  unblank : ∀ c ∈ s.toList, Text.isBlank c = false
  no_hyphen : s.toList.head? ≠ some '-'
  no_at : '@' ∉ s.toList

/-- The faults of a word, as they are looked for. -/
theorem isAccountWord_iff {s : String} :
    IsAccountWord s ↔ s ≠ "" ∧ ¬(s.toList.head? = some '-' ∨ s.toList.any Text.isBlank = true ∨
      s.toList.contains '@' = true) := by
  rw [not_or, not_or, Bool.not_eq_true, List.any_eq_false, List.contains_iff_mem]
  constructor
  · intro h
    exact ⟨h.nonempty, h.no_hyphen, fun c hc => by simp [h.unblank c hc], h.no_at⟩
  · rintro ⟨hnonempty, hhyphen, hblank, hat⟩
    exact ⟨hnonempty, fun c hc => by simpa using hblank c hc, hhyphen, hat⟩

namespace SshCredentials

variable {c : SshCredentials} {t : SshTarget}

theorem word_eq_ok {field value s : String} :
    word field value = .ok s ↔ s = Text.trim value ∧ IsAccountWord s := by
  unfold word
  dsimp only
  split
  · next hempty =>
    constructor
    · nofun
    · rintro ⟨rfl, hword⟩
      exact absurd (String.isEmpty_iff.1 hempty) hword.nonempty
  · next hempty =>
    have hnonempty : Text.trim value ≠ "" := fun h => hempty (String.isEmpty_iff.2 h)
    split
    · next hbad =>
      constructor
      · nofun
      · rintro ⟨rfl, hword⟩
        exact absurd hbad (isAccountWord_iff.1 hword).2
    · next hgood =>
      constructor
      · intro h
        cases h
        exact ⟨rfl, isAccountWord_iff.2 ⟨hnonempty, hgood⟩⟩
      · rintro ⟨rfl, -⟩
        rfl

theorem port_eq_ok {n port : Int} :
    Field.port n = .ok port ↔ port = n ∧ 1 ≤ n ∧ n ≤ 65535 := by
  unfold Field.port
  split
  · next hrange =>
    constructor
    · intro h
      cases h
      exact ⟨rfl, hrange⟩
    · rintro ⟨rfl, -⟩
      rfl
  · next hrange => simp [hrange]

theorem keyAuth_eq_ok {given : Option String} {a : SshAuth} :
    keyAuth given = .ok a ↔
      ∃ path, given = some path ∧ Text.isBlankText path = false ∧ a = .key (Text.trim path) := by
  unfold keyAuth
  cases given with
  | none => simp
  | some path =>
    cases hblank : Text.isBlankText path with
    | true => simp [hblank]
    | false => simp [hblank, @eq_comm _ a]

/-- How credentials prove an identity: by the password unless it is empty, else by the key at a path
that is not blank. -/
inductive Proves (c : SshCredentials) : SshAuth → Prop
  | password {secret : String} (h : c.password = some secret) (hne : secret ≠ "") :
      Proves c (.password secret)
  | key {path : String} (hpassword : ∀ secret, c.password = some secret → secret = "")
      (h : c.privateKeyPath = some path) (hpath : Text.isBlankText path = false) :
      Proves c (.key (Text.trim path))

theorem auth_eq_ok {a : SshAuth} : c.auth = .ok a ↔ c.Proves a := by
  have hkey (hpassword : ∀ secret, c.password = some secret → secret = "") :
      keyAuth c.privateKeyPath = .ok a ↔ c.Proves a := by
    rw [keyAuth_eq_ok]
    constructor
    · rintro ⟨path, hgiven, hpath, rfl⟩
      exact .key hpassword hgiven hpath
    · intro h
      cases h with
      | password h hne => exact absurd (hpassword _ h) hne
      | key _ h hpath => exact ⟨_, h, hpath, rfl⟩
  unfold auth
  cases hpassword : c.password with
  | none => exact hkey (by simp [hpassword])
  | some secret =>
    dsimp only
    split
    · next hempty => exact hkey (by simpa [hpassword] using hempty)
    · next hempty =>
      have hne : secret ≠ "" := by simpa using hempty
      constructor
      · intro h
        cases h
        exact .password hpassword hne
      · intro h
        cases h with
        | password h _ =>
          cases hpassword.symm.trans h
          rfl
        | key hnone _ _ => exact absurd (hnone secret hpassword) hne

/-- Credentials are accepted exactly if host and user are words, the port is one, and there is a way
of proving one's identity. -/
theorem check_eq_ok :
    c.check = .ok t ↔
      (t.host = Text.trim c.host ∧ IsAccountWord t.host) ∧
      (t.port = c.port ∧ 1 ≤ c.port ∧ c.port ≤ 65535) ∧
      (t.username = Text.trim c.username ∧ IsAccountWord t.username) ∧ c.Proves t.auth := by
  simp only [check, Except.bind_eq_ok, word_eq_ok, port_eq_ok, auth_eq_ok, Except.ok.injEq]
  constructor
  · rintro ⟨host, hhost, port, hport, username, husername, auth, hauth, rfl⟩
    exact ⟨hhost, hport, husername, hauth⟩
  · rintro ⟨hhost, hport, husername, hauth⟩
    exact ⟨_, hhost, _, hport, _, husername, _, hauth, rfl⟩

/-- Another password is accepted in the place of one that is not empty. -/
theorem check_with_password {secret other : String} (hsecret : c.password = some secret)
    (hne : secret ≠ "") (hother : other ≠ "") (h : c.check = .ok t) :
    t.auth = .password secret ∧
      { c with password := some other }.check = .ok { t with auth := .password other } := by
  rw [check_eq_ok] at h ⊢
  obtain ⟨hhost, hport, husername, hproves⟩ := h
  refine ⟨?_, hhost, hport, husername, .password rfl hother⟩
  generalize t.auth = a at hproves
  cases hproves with
  | password h _ =>
    cases hsecret.symm.trans h
    rfl
  | key hnone _ _ => exact absurd (hnone secret hsecret) hne

end SshCredentials

/-! ### The arguments as the client reads them -/

/-- What a call asks the client for. -/
structure ClientRequest where
  options : List (String × String)
  account : String
  command : List String
  deriving DecidableEq, Repr

namespace ClientRequest

/-- The options that take the next argument as their value. The reader refuses any other. -/
def valued : List String := ["-i", "-o", "-p"]

/-- Reads options with their values, up to the mark that ends the options. Then comes the account,
and the rest is the command. -/
def ofArguments : List String → Option ClientRequest
  | first :: second :: more =>
    if first = "--" then some ⟨[], second, more⟩
    else if first ∈ valued then
      (ofArguments more).map fun r => { r with options := (first, second) :: r.options }
    else none
  | _ => none

/-- Reads a call of the client, or of the program that calls the client with a password from the
environment. -/
def ofCall (call : ClientCall) : Option ClientRequest :=
  if call.program = "ssh" then ofArguments call.arguments
  else if call.program = "sshpass" ∧ call.arguments.take 2 = ["-e", "ssh"] then
    ofArguments (call.arguments.drop 2)
  else none

/-- The arguments that give options. -/
def spelled (options : List (String × String)) : List String := options.flatMap fun o => [o.1, o.2]

/-- Options are read whatever their values are. -/
theorem ofArguments_spelled (options : List (String × String)) (h : ∀ o ∈ options, o.1 ∈ valued)
    (account : String) (command : List String) :
    ofArguments (spelled options ++ "--" :: account :: command) =
      some ⟨options, account, command⟩ := by
  induction options with
  | nil => rfl
  | cons o options ih =>
    have hvalued : o.1 ∈ valued := h o List.mem_cons_self
    have hmark : o.1 ≠ "--" := ne_of_mem_of_not_mem hvalued (by decide)
    have hmore := ih fun o ho => h o (List.mem_cons_of_mem _ ho)
    change ofArguments (o.1 :: o.2 :: (spelled options ++ "--" :: account :: command)) = _
    rw [ofArguments, if_neg hmark, if_pos hvalued, hmore]
    rfl

end ClientRequest

namespace SshAuth

/-- The path of the key, if the identity is proved by one. -/
def keyPath? : SshAuth → Option String
  | .password _ => none
  | .key path => some path

/-- The options that are given for an identity. -/
def options : SshAuth → List (String × String)
  | .password _ => []
  | .key path => [("-i", path), ("-o", "BatchMode=yes")]

end SshAuth

namespace SshTarget

open ClientRequest

variable (t : SshTarget) (connectTimeout : Nat) (script : String)

/-- The account as the client is given it. -/
def account : String := t.username ++ "@" ++ t.host

/-- The options that do not depend on the identity. -/
def addressOptions : List (String × String) :=
  [("-p", Text.showInt t.port), ("-o", "StrictHostKeyChecking=accept-new"),
    ("-o", "ConnectTimeout=" ++ Text.showNat (max (connectTimeout / nanosPerSecond) 1))]

/-- The client reads a call as it is meant, whatever texts there are in the target. -/
theorem ofCall_call :
    ofCall (t.call connectTimeout script) =
      some ⟨t.auth.options ++ t.addressOptions connectTimeout, t.account, ["sh -s"]⟩ := by
  have hread := ofArguments_spelled (t.auth.options ++ t.addressOptions connectTimeout) ?_
    t.account ["sh -s"]
  · rw [← hread]
    unfold call identity
    cases t.auth with
    | password secret => rfl
    | key path => rfl
  · unfold addressOptions
    cases t.auth with
    | password secret => simp [SshAuth.options, valued]
    | key path => simp [SshAuth.options, valued]

/-- The one port among the options. -/
theorem port_mem_options {value : String} :
    ("-p", value) ∈ t.auth.options ++ t.addressOptions connectTimeout ↔
      value = Text.showInt t.port := by
  unfold addressOptions
  cases t.auth with
  | password secret => simp [SshAuth.options]
  | key path => simp [SshAuth.options]

/-- The one key among the options, if there is one. -/
theorem key_mem_options {value : String} :
    ("-i", value) ∈ t.auth.options ++ t.addressOptions connectTimeout ↔
      t.auth.keyPath? = some value := by
  unfold addressOptions
  cases t.auth with
  | password secret => simp [SshAuth.options, SshAuth.keyPath?]
  | key path => simp [SshAuth.options, SshAuth.keyPath?, eq_comm]

/-- A setting of the client that credentials have no part in. -/
def IsFixedSetting (value : String) : Prop :=
  value = "BatchMode=yes" ∨ value = "StrictHostKeyChecking=accept-new" ∨
    ∃ seconds, value = "ConnectTimeout=" ++ Text.showNat seconds

theorem setting_of_mem_options {value : String}
    (h : ("-o", value) ∈ t.auth.options ++ t.addressOptions connectTimeout) :
    IsFixedSetting value := by
  have hcases : value = "BatchMode=yes" ∨ value = "StrictHostKeyChecking=accept-new" ∨
      value = "ConnectTimeout=" ++ Text.showNat (max (connectTimeout / nanosPerSecond) 1) := by
    unfold addressOptions at h
    generalize t.auth = a at h
    cases a with
    | password secret => exact .inr (by simpa [SshAuth.options] using h)
    | key path => simpa [SshAuth.options] using h
  exact hcases.imp_right (Or.imp_right fun h => ⟨_, h⟩)

variable {t connectTimeout script} {t' : SshTarget} {connectTimeout' : Nat} {script' : String}

theorem toList_account : t.account.toList = t.username.toList ++ '@' :: t.host.toList := by
  unfold account
  rw [String.toList_append, String.toList_append, List.append_assoc]
  rfl

/-- An account is cut into its user and its host in one way. -/
theorem account_inj (husername : '@' ∉ t.username.toList) (hhost : '@' ∉ t.host.toList)
    (h : t.account = t'.account) : t.username = t'.username ∧ t.host = t'.host := by
  have hchars := congrArg String.toList h
  rw [toList_account, toList_account, List.append_cons_inj_of_notMem husername hhost] at hchars
  exact ⟨String.toList_inj.1 hchars.1, String.toList_inj.1 hchars.2.2⟩

/-- The arguments tell whether the client gets a password. -/
theorem program_call :
    (t.call connectTimeout script).program =
      if (t.call connectTimeout script).arguments.head? = some "-e" then "sshpass" else "ssh" := by
  unfold call identity
  cases t.auth with
  | password secret => rfl
  | key path => rfl

theorem ofCall_congr
    (h : (t.call connectTimeout script).arguments = (t'.call connectTimeout' script').arguments) :
    ofCall (t.call connectTimeout script) = ofCall (t'.call connectTimeout' script') := by
  unfold ofCall
  rw [program_call, program_call, h]

/-- Equal arguments have equal ports, keys and accounts. -/
theorem eq_of_arguments
    (h : (t.call connectTimeout script).arguments = (t'.call connectTimeout' script').arguments) :
    Text.showInt t.port = Text.showInt t'.port ∧ t.auth.keyPath? = t'.auth.keyPath? ∧
      t.account = t'.account := by
  have hread := ofCall_congr h
  rw [ofCall_call, ofCall_call, Option.some.injEq, ClientRequest.mk.injEq] at hread
  obtain ⟨hoptions, haccount, -⟩ := hread
  refine ⟨?_, Option.ext fun path => ?_, haccount⟩
  · rw [← t'.port_mem_options connectTimeout', ← hoptions]
    exact (t.port_mem_options connectTimeout).2 rfl
  · rw [← t.key_mem_options connectTimeout, hoptions, key_mem_options]

end SshTarget

/-- A port is told by its digits. -/
theorem Text.showNat_inj {m n : Nat} (h : showNat m = showNat n) : m = n := by
  have hdigits : Nat.toDigits 10 m = Nat.toDigits 10 n := String.ofList_injective h
  have hm := readNat_toDigits (Nat.le_max_left m n)
  rw [hdigits, readNat_toDigits (Nat.le_max_right m n)] at hm
  exact (Except.ok.inj hm).symm

namespace SshCredentials

open ClientRequest

variable {c : SshCredentials} {t : SshTarget}

/-- A call in which the client finds the texts of credentials where they belong, and only there. -/
structure Fill (c : SshCredentials) (t : SshTarget) (call : ClientCall) : Prop where
  host : t.host = Text.trim c.host ∧ IsAccountWord t.host
  username : t.username = Text.trim c.username ∧ IsAccountWord t.username
  /-- The last three arguments end the options and give the account and the command. -/
  ends : ["--", t.username ++ "@" ++ t.host, "sh -s"] <:+ call.arguments
  splits : (t.username ++ "@" ++ t.host).toList.count '@' = 1
  /-- The client reads a port and, where the identity is proved by a key, its path. All its other
  settings are fixed. -/
  reads : ∃ (port : Nat) (options : List (String × String)),
    c.port = port ∧ t.port = port ∧ 1 ≤ port ∧ port ≤ 65535 ∧
    ofCall call = some ⟨options, t.username ++ "@" ++ t.host, ["sh -s"]⟩ ∧
    (∀ value, ("-p", value) ∈ options ↔ value = Text.showNat port) ∧
    (∀ value, ("-i", value) ∈ options ↔ t.auth = .key value) ∧
    ∀ value, ("-o", value) ∈ options → SshTarget.IsFixedSetting value
  proves : c.Proves t.auth
  /-- The environment has the password, where the identity is proved by one. -/
  password : ∀ secret, call.password = some secret ↔ t.auth = .password secret

/-- The port of accepted credentials, as a natural number. -/
theorem exists_port (h : c.check = .ok t) :
    ∃ port : Nat, c.port = port ∧ t.port = port ∧ 1 ≤ port ∧ port ≤ 65535 := by
  obtain ⟨-, ⟨hport, hlow, hhigh⟩, -⟩ := check_eq_ok.1 h
  exact ⟨c.port.toNat, by omega, by omega, by omega, by omega⟩

theorem fill_call (h : c.check = .ok t) (connectTimeout : Nat) (script : String) :
    c.Fill t (t.call connectTimeout script) := by
  obtain ⟨hhost, -, husername, hproves⟩ := check_eq_ok.1 h
  obtain ⟨port, hgiven, hport, hlow, hhigh⟩ := exists_port h
  refine
    { host := hhost, username := husername, ends := ?_, splits := ?_
      reads := ⟨port, _, hgiven, hport, hlow, hhigh, t.ofCall_call connectTimeout script, ?_, ?_,
        fun _ => t.setting_of_mem_options connectTimeout⟩
      proves := hproves, password := ?_ }
  · have haddress : ["--", t.username ++ "@" ++ t.host, "sh -s"] <:+ t.address connectTimeout :=
      ⟨(t.address connectTimeout).take 6, rfl⟩
    change _ <:+ t.identity.2.1 ++ t.address connectTimeout
    exact haddress.trans (List.suffix_append _ _)
  · change t.account.toList.count '@' = 1
    rw [SshTarget.toList_account, List.count_append, List.count_cons_self,
      List.count_eq_zero.2 husername.2.no_at, List.count_eq_zero.2 hhost.2.no_at]
  · intro value
    rw [SshTarget.port_mem_options, hport]
    rfl
  · intro value
    rw [SshTarget.key_mem_options]
    cases t.auth with
    | password secret => simp [SshAuth.keyPath?]
    | key path => simp [SshAuth.keyPath?]
  · intro secret
    unfold SshTarget.call SshTarget.identity
    cases t.auth with
    | password secret => simp
    | key path => simp

/-- The client finds the texts of accepted credentials where they belong, and only there. With
another password the call differs in the environment only. And credentials with the same arguments,
whatever the time limits and the scripts, are for the same account, port and key. -/
theorem call_tells_credentials (h : c.check = .ok t) (connectTimeout : Nat) (script : String) :
    let call := t.call connectTimeout script
    c.Fill t call ∧ call.input = script ∧
    (∀ secret other, c.password = some secret → secret ≠ "" → other ≠ "" →
      call.password = some secret ∧ ∃ t', { c with password := some other }.check = .ok t' ∧
        t'.call connectTimeout script = { call with password := some other }) ∧
    ∀ c' t' connectTimeout' script', SshCredentials.check c' = .ok t' →
      (t'.call connectTimeout' script').arguments = call.arguments →
      t'.host = t.host ∧ t'.port = t.port ∧ t'.username = t.username ∧
        t'.auth.keyPath? = t.auth.keyPath? := by
  intro call
  refine ⟨fill_call h connectTimeout script, rfl, ?_, ?_⟩
  · intro secret other hsecret hne hother
    obtain ⟨hauth, hcheck⟩ := check_with_password hsecret hne hother h
    have hcall : call = ⟨"sshpass", ["-e", "ssh"] ++ t.address connectTimeout, some secret,
        script⟩ := by
      change t.call connectTimeout script = _
      unfold SshTarget.call SshTarget.identity
      rw [hauth]
    rw [hcall]
    exact ⟨rfl, _, hcheck, rfl⟩
  · intro c' t' connectTimeout' script' h' harguments
    obtain ⟨hport, hkey, haccount⟩ := SshTarget.eq_of_arguments harguments
    obtain ⟨⟨-, hhost⟩, -, ⟨-, husername⟩, -⟩ := check_eq_ok.1 h'
    obtain ⟨husernames, hhosts⟩ := SshTarget.account_inj husername.no_at hhost.no_at haccount
    obtain ⟨port, -, ht, -⟩ := exists_port h
    obtain ⟨port', -, ht', -⟩ := exists_port h'
    rw [ht, ht'] at hport
    have hports : port' = port := Text.showNat_inj hport
    exact ⟨hhosts, by rw [ht, ht', hports], husernames, hkey⟩

/-- The client takes the path of a key for a path, also where it looks like an option. -/
theorem call_tells_credentials_key :
    let c : SshCredentials := ⟨" 198.51.100.7 ", 2222, "root", some "", some " -p "⟩
    let t : SshTarget := ⟨"198.51.100.7", 2222, "root", .key "-p"⟩
    let call := t.call 15000000000 "uname"
    c.check = .ok t ∧ c.Fill t call ∧
      call.arguments = ["-i", "-p", "-o", "BatchMode=yes", "-p", "2222", "-o",
        "StrictHostKeyChecking=accept-new", "-o", "ConnectTimeout=15", "--", "root@198.51.100.7",
        "sh -s"] := by
  intro c t call
  have hcheck : c.check = .ok t := by decide +kernel
  exact ⟨hcheck, (call_tells_credentials hcheck 15000000000 "uname").1, by decide +kernel⟩

end SshCredentials

end NodeFleet
