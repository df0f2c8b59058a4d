import NodeFleet.Json.Value

/-!
The errors of the panel.

Each error has a kind for clients, an HTTP status, and a message. `Error.display` is the text for
logs, with a word for the kind in front; `Error.body` is what an HTTP client receives. Faults of the
database and of stored JSON become errors by `Error.ofDatabase` and `Error.ofJson`.
-/

namespace NodeFleet

/-- What went wrong. -/
inductive Error where
  /-- The input breaks a rule. -/
  | validation (message : String)
  /-- The request cannot be read. -/
  | badRequest (message : String)
  /-- No valid credentials. -/
  | unauthorized (message : String)
  | notFound (message : String)
  /-- The state of the fleet forbids it. -/
  | conflict (message : String)
  | tooManyRequests
  | timeout (message : String)
  /-- A fault of the panel itself. -/
  | internal (message : String)
  deriving DecidableEq, Repr

namespace Error

/-- The text for an exhausted request limit. -/
def tooManyText : String := "Слишком много запросов"

/-- The code of each kind. -/
def code : Error → String
  | .validation _ => "validation_failed"
  | .badRequest _ => "bad_request"
  | .unauthorized _ => "unauthorized"
  | .notFound _ => "not_found"
  | .conflict _ => "conflict"
  | .tooManyRequests => "rate_limited"
  | .timeout _ => "timeout"
  | .internal _ => "internal"

/-- The HTTP status of each kind. -/
def status : Error → Nat
  | .validation _ | .badRequest _ => 400
  | .unauthorized _ => 401
  | .notFound _ => 404
  | .conflict _ => 409
  | .tooManyRequests => 429
  | .timeout _ => 504
  | .internal _ => 500

/-- The message for clients. -/
def message : Error → String
  | .validation m | .badRequest m | .unauthorized m | .notFound m | .conflict m | .timeout m
  | .internal m => m
  | .tooManyRequests => tooManyText

/-- The message with the kind in front. -/
def display : Error → String
  | .validation m => "Ошибка валидации: " ++ m
  | .badRequest m => "Неверный запрос: " ++ m
  | .unauthorized m => "Не авторизован: " ++ m
  | .notFound m => "Не найдено: " ++ m
  | .conflict m => "Конфликт: " ++ m
  | .tooManyRequests => tooManyText
  | .timeout m => "Превышено время ожидания: " ++ m
  | .internal m => "Внутренняя ошибка: " ++ m

/-- The body of the HTTP response. -/
def body (e : Error) : Json.Value :=
  .object [("code", .ofNat e.status), ("error", .str e.code), ("message", .str e.message)]

end Error

/-- A refusal of the database: its number and its wording. -/
structure Refusal where
  code : Nat
  wording : String
  deriving DecidableEq, Repr

/-- What a refusal is told as. -/
def Refusal.text (r : Refusal) : String :=
  "error returned from database: (code: " ++ Text.showNat r.code ++ ") " ++ r.wording

/-- A fault of the database. -/
inductive DatabaseFault where
  /-- No connection was free in time. -/
  | busy
  /-- The database is closed. -/
  | closed
  /-- A statement that reads is refused. -/
  | query (refusal : Refusal)
  /-- A statement that writes is refused. -/
  | execution (refusal : Refusal)
  /-- A row that has to be there is not. -/
  | recordNotFound (what : String)
  | custom (what : String)
  deriving DecidableEq, Repr

namespace Error

/-- A fault of the database as an error: only that it was busy is no fault of the panel. -/
def ofDatabase : DatabaseFault → Error
  | .busy => .timeout "БД не ответила вовремя"
  | .closed => .internal "Failed to acquire connection from pool: Connection closed"
  | .query r => .internal ("Query Error: " ++ r.text)
  | .execution r => .internal ("Execution Error: " ++ r.text)
  | .recordNotFound what => .internal ("RecordNotFound Error: " ++ what)
  | .custom what => .internal ("Custom Error: " ++ what)

/-- A fault in stored JSON as an error. -/
def ofJson (message : String) : Error := .internal ("Ошибка сериализации: " ++ message)

end Error

end NodeFleet
