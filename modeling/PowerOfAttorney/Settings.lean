import PowerOfAttorney.Text.Ascii
import PowerOfAttorney.Text.Decimal
import PowerOfAttorney.Text.Split

/-!
Settings from the environment.

The case of names does not matter. Two underscores stand for a point, which parts the name of a table from the
name of what is in it; no setting is a table.
-/

namespace PowerOfAttorney

/-- The settings of the program. -/
structure Settings where
  appEnv : String := "development"
  port : Nat := 5050
  logLevel : String := "info"
  dataBackend : String := "memory"
  redisUrl : String := "redis://127.0.0.1:6379"
  redisKeyPrefix : String := "lpa:donor"
  sessionSecret : String := "dev-secret"
  sessionCookie : String := "lpa_session"
  placesBaseUrl : String := "https://api.os.uk/search/places/v1"
  placesApiKey : String := ""
  addressLookupTimeoutMs : Nat := 5000
  appPublicUrl : String := "http://localhost:5050"
  requestTimeoutMs : Nat := 15000
  rateLimitPerSecond : Nat := 20
  rateLimitBurst : Nat := 40
deriving DecidableEq, Repr, Inhabited

namespace Settings

open Text

/-- Whether the program runs for real. -/
def isProduction (s : Settings) : Bool := sameIgnoringCase s.appEnv "production"

/-- Whether the program runs under test, where requests are not counted. -/
def isTest (s : Settings) : Bool := sameIgnoringCase s.appEnv "test"

/-- Whether LPAs are kept in a hash server. -/
def usesRedis (s : Settings) : Bool := sameIgnoringCase s.dataBackend "redis"

/-! ### Names -/

/-- The characters with a point for every two underscores. -/
def dotted : List Char → List Char
  | '_' :: '_' :: r => '.' :: dotted r
  | c :: r => c :: dotted r
  | [] => []

/-- A letter in lower case, as far as that is ASCII: the Kelvin sign is a capital `k` too. -/
def lowerLetter (c : Char) : Char := if c.toNat = 0x212A then 'k' else lowerChar c

/-- The name of a setting as the name of a variable gives it. -/
def canonical (name : String) : List Char := dotted (name.toList.map lowerLetter)

/-- Whether a character may stand in the name of a table's entry. -/
def isEntryChar (c : Char) : Bool := isAlphanumeric c || c == ' ' || c == '_' || c == '-'

/-- Whether the characters are the name of a table's entry after a point. -/
def isEntry (cs : List Char) : Bool := !cs.isEmpty && cs.all isEntryChar

/-- A space or a tab. -/
def isGap (c : Char) : Bool := c == ' ' || c == '\t'

/-- Whether the characters are a place in a list, after the bracket that opens it: a number of 64 bits with an
    optional minus sign, perhaps between gaps. -/
def isPlace (cs : List Char) : Bool :=
  match cs.reverse with
  | ']' :: r =>
    let written := (r.dropWhile isGap).reverse.dropWhile isGap
    written.head? != some '+' &&
      (Decimal.integerOfChars? written).any fun n => -9223372036854775808 ≤ n && n < 9223372036854775808
  | _ => false

/-- Whether the characters lead from a value into it: points with names, brackets with places. -/
def leadsInto (cs : List Char) : Bool :=
  match pieces '.' cs with
  | first :: entries =>
    let parts := first :: entries
    let sound := parts.all fun p => match pieces '[' p with
      | _ :: places => places.all isPlace
      | [] => false
    let named := entries.all fun p => isEntry (p.takeWhile fun c => c != '[')
    !cs.isEmpty && sound && named && (first.isEmpty || first.head? == some '[')
  | [] => false

/-! ### Values -/

/-- The last value given for a setting; an error if something is put into it as if it were a table. -/
def given (env : List (List Char × String)) (name : String) : Except Unit (Option String) :=
  let into := fun (key : List Char) => name.toList.isPrefixOf key && leadsInto (key.drop name.length)
  if env.any fun e => into e.1 then .error ()
  else .ok ((env.reverse.find? fun e => e.1 == name.toList).map (·.2))

/-- A text that may be given. -/
def textOf (env : List (List Char × String)) (name otherwise : String) : Except Unit String :=
  (given env name).map fun v => v.getD otherwise

/-- The number that a value gives: a few words count as 1 and 0. -/
def number? (value : String) : Option Nat :=
  let v := lower value
  if v = "true" ∨ v = "on" ∨ v = "yes" then some 1
  else if v = "false" ∨ v = "off" ∨ v = "no" then some 0
  else Decimal.natural? value

/-- A number below a bound that may be given. -/
def numberOf (env : List (List Char × String)) (name : String) (bound otherwise : Nat) : Except Unit Nat :=
  match given env name with
  | .error e => .error e
  | .ok none => .ok otherwise
  | .ok (some v) => match number? v with
    | some n => if n < bound then .ok n else .error ()
    | none => .error ()

/-- The settings that names and values of an environment give. -/
def load? (named : List (String × String)) : Option Settings :=
  let env := named.map fun v => (canonical v.1, v.2)
  let d : Settings := {}
  let loaded : Except Unit Settings := do
    return {
      appEnv := ← textOf env "app_env" d.appEnv
      port := ← numberOf env "port" 65536 d.port
      logLevel := ← textOf env "log_level" d.logLevel
      dataBackend := ← textOf env "data_backend" d.dataBackend
      redisUrl := ← textOf env "redis_url" d.redisUrl
      redisKeyPrefix := ← textOf env "redis_key_prefix" d.redisKeyPrefix
      sessionSecret := ← textOf env "session_secret" d.sessionSecret
      sessionCookie := ← textOf env "session_cookie" d.sessionCookie
      placesBaseUrl := ← textOf env "os_places_base_url" d.placesBaseUrl
      placesApiKey := ← textOf env "os_places_api_key" d.placesApiKey
      addressLookupTimeoutMs := ← numberOf env "address_lookup_timeout_ms" 18446744073709551616 d.addressLookupTimeoutMs
      appPublicUrl := ← textOf env "app_public_url" d.appPublicUrl
      requestTimeoutMs := ← numberOf env "request_timeout_ms" 18446744073709551616 d.requestTimeoutMs
      rateLimitPerSecond := ← numberOf env "rate_limit_per_second" 18446744073709551616 d.rateLimitPerSecond
      rateLimitBurst := ← numberOf env "rate_limit_burst" 4294967296 d.rateLimitBurst }
  loaded.toOption

end Settings

end PowerOfAttorney
