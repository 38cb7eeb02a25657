import PowerOfAttorney.Settings
import PowerOfAttorney.Text.Blank

/-!
The session of a request: a signed token, sent back as a cookie or as a bearer token.

The cookie comes first. A header that holds anything but visible ASCII characters is passed over.
-/

namespace PowerOfAttorney.Web

open Text

/-- The headers of a request in order, by lower-case name. -/
abbrev Headers := List (String × List Char)

namespace Headers

/-- The values of a header. -/
def all (hs : Headers) (name : String) : List (List Char) :=
  hs.filterMap fun h => if h.1 = name then some h.2 else none

/-- The first value of a header. -/
def first? (hs : Headers) (name : String) : Option (List Char) := (hs.all name).head?

/-- Whether a value may stand in a header: of the ASCII control characters it holds no other than tabs. -/
def isValue (value : List Char) : Bool := value.all fun c => c.toNat == 9 || (32 ≤ c.toNat && c.toNat != 127)

/-- Whether every header has the name and the value of one. -/
def areSound (hs : Headers) : Bool := List.all hs fun h => isToken h.1.toList && isValue h.2

/-- Whether a value can be read as text. -/
def isReadable (value : List Char) : Bool := value.all isVisible

/-- What can be read as text may stand in a header. -/
theorem isValue_of_isReadable {value : List Char} (h : isReadable value = true) : isValue value = true := by
  simp only [isReadable, isValue, isVisible, List.all_eq_true, Bool.or_eq_true, Bool.and_eq_true, beq_iff_eq,
    bne_iff_ne, decide_eq_true_eq] at h ⊢
  intro c hc
  have := h c hc
  omega

/-- A value made of two may stand in a header when both may. -/
@[simp] theorem isValue_append (a b : List Char) : isValue (a ++ b) = (isValue a && isValue b) := List.all_append

/-- The first value of a header, if it can be read. -/
def readable? (hs : Headers) (name : String) : Option (List Char) := (hs.first? name).filter isReadable

end Headers

/-- A way to sign the name of a session with a secret, and to read it off again. -/
structure TokenScheme where
  sign : (secret session : String) → String
  read : (secret token : String) → Option String

/-- The session that a token names. No session has an empty name. -/
def TokenScheme.session? (t : TokenScheme) (secret token : String) : Option String :=
  (t.read secret token).filter fun s => s != ""

namespace Session

/-- How long a session lasts, in seconds. -/
def lifetime : Nat := 86400

/-- The cookie that hands out a token. -/
def cookie (s : Settings) (token : String) : String :=
  s.sessionCookie ++ "=" ++ token ++ "; Path=/; HttpOnly; SameSite=Lax; Max-Age=" ++ Decimal.ofNat lifetime ++
    (if s.isProduction then "; Secure" else "")

/-- The name and the value of a part of a cookie header, without the blanks around them. -/
def cookiePart? (part : List Char) : Option (List Char × List Char) :=
  (cut '=' (trimChars part)).map fun p => (trimChars p.1, trimChars p.2)

/-- The value of the first cookie of a name. -/
def cookieToken? (hs : Headers) (name : String) : Option (List Char) :=
  let parts := ((hs.all "cookie").filter Headers.isReadable).flatMap (pieces ';')
  (parts.filterMap cookiePart?).findSome? fun p => if p.1 = name.toList then some p.2 else none

/-- The word before a bearer token, with a blank after it. -/
def bearerWords : List (List Char) := ["Bearer ".toList, "bearer ".toList]

/-- The token of the first authorization header. -/
def bearerToken? (hs : Headers) : Option (List Char) :=
  (hs.readable? "authorization").bind fun v =>
    bearerWords.findSome? fun w => if w.isPrefixOf v then some (v.drop w.length) else none

/-- The token of a request. -/
def token? (hs : Headers) (cookieName : String) : Option String :=
  ((cookieToken? hs cookieName).orElse fun _ => bearerToken? hs).map String.ofList

end Session

end PowerOfAttorney.Web
