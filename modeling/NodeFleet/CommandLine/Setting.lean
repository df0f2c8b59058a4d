import NodeFleet.Text.Integer

/-!
The settings that a command line may give.

Each setting has a name, which stands after two hyphens, and a kind of value. Some may also be given
by a variable of the environment, and some have a standard value.
-/

namespace NodeFleet.CommandLine

/-- A setting of the command line. -/
inductive Setting where
  | listen
  | dbUrl
  | tlsMode
  | domain
  | tlsCert
  | tlsKey
  | jwtSecret
  | adminUsername
  | adminPassword
  | agentBinary
  | reconcileInterval
  | unhealthyAfter
  | offlineAfter
  | probeTimeout
  | noProbe
  | installTimeout
  | sshConnectTimeout
  | help
  deriving DecidableEq, Repr

/-- The kinds of values. -/
inductive ValueKind where
  /-- No value: the setting is given or not. -/
  | mark
  | text
  /-- A text that is not empty. -/
  | path
  /-- A number of 64 bits. -/
  | number
  deriving DecidableEq, Repr

namespace Setting

/-- All settings, in the order of the help. -/
def all : List Setting :=
  [listen, dbUrl, tlsMode, domain, tlsCert, tlsKey, jwtSecret, adminUsername, adminPassword,
    agentBinary, reconcileInterval, unhealthyAfter, offlineAfter, probeTimeout, noProbe,
    installTimeout, sshConnectTimeout, help]

/-- The name of a setting. -/
def name : Setting → String
  | listen => "listen"
  | dbUrl => "db-url"
  | tlsMode => "tls-mode"
  | domain => "domain"
  | tlsCert => "tls-cert"
  | tlsKey => "tls-key"
  | jwtSecret => "jwt-secret"
  | adminUsername => "admin-username"
  | adminPassword => "admin-password"
  | agentBinary => "agent-binary"
  | reconcileInterval => "reconcile-interval"
  | unhealthyAfter => "unhealthy-after"
  | offlineAfter => "offline-after"
  | probeTimeout => "probe-timeout"
  | noProbe => "no-probe"
  | installTimeout => "install-timeout"
  | sshConnectTimeout => "ssh-connect-timeout"
  | help => "help"

/-- The kind of the value. -/
def kind : Setting → ValueKind
  | noProbe | help => .mark
  | agentBinary => .path
  | reconcileInterval | unhealthyAfter | offlineAfter | probeTimeout | installTimeout
  | sshConnectTimeout => .number
  | _ => .text

/-- The variable of the environment that may give the value. -/
def variableName? : Setting → Option String
  | dbUrl => some "DATABASE_URL"
  | jwtSecret => some "JWT_SECRET"
  | adminPassword => some "ADMIN_PASSWORD"
  | agentBinary => some "AGENT_BINARY"
  | _ => none

/-- The value when none is given. -/
def standard? : Setting → Option String
  | listen => some "0.0.0.0:8080"
  | dbUrl => some "sqlite:./panel.db?mode=rwc"
  | tlsMode => some "none"
  | domain => some "panel.local"
  | tlsCert => some "/etc/panel/cert.pem"
  | tlsKey => some "/etc/panel/key.pem"
  | adminUsername => some "admin"
  | reconcileInterval => some "15"
  | unhealthyAfter => some "45"
  | offlineAfter => some "120"
  | probeTimeout => some "3"
  | installTimeout => some "300"
  | sshConnectTimeout => some "15"
  | _ => none

/-- What the help says of a setting. -/
def about : Setting → String
  | listen => "Адрес для прослушивания (host:port)"
  | dbUrl => "URL базы данных"
  | tlsMode => "Режим TLS: none, self-signed, cert"
  | domain => "Домен для SAN самоподписанного сертификата"
  | tlsCert => "PEM-сертификат для режима cert"
  | tlsKey => "PEM-ключ для режима cert"
  | jwtSecret => "Секрет JWT (случайный если не задан)"
  | adminUsername => "Имя пользователя администратора"
  | adminPassword => "Пароль администратора"
  | agentBinary => "Бинарник агента, раздаваемый узлам при установке"
  | reconcileInterval => "Период реконсилера, сек"
  | unhealthyAfter => "Heartbeat старше N сек: узел unhealthy"
  | offlineAfter => "Heartbeat старше N сек: узел offline"
  | probeTimeout => "Таймаут TCP-пробы узла, сек"
  | noProbe => "Отключить TCP-пробы узлов"
  | installTimeout => "Общий таймаут автоустановки, сек"
  | sshConnectTimeout => "Таймаут SSH-соединения, сек"
  | help => "Print help"

/-- The setting of a name. -/
def ofName? (s : String) : Option Setting := all.find? (·.name = s)

/-- A setting with the place of its value, as it is written. -/
def written (s : Setting) : String :=
  let place := String.ofList (s.name.toList.map fun c => if c = '-' then '_' else c.toUpper)
  if s.kind = .mark then "--" ++ s.name else "--" ++ s.name ++ " <" ++ place ++ ">"

end Setting

end NodeFleet.CommandLine
