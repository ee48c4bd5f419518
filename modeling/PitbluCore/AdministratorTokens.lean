import PitbluCore.Library.Base64Url
import PitbluCore.Storage

namespace PitbluCore

open Library

structure RandomBytes (n : ℕ) where
  bytes : List UInt8
  length_eq : bytes.length = n

structure TokenStatus where
  configured : Bool
  changedAt : Option Time

namespace AdministratorTokens

def isTokenChar (c : Char) : Bool :=
  ('A' ≤ c && c ≤ 'Z') || ('a' ≤ c && c ≤ 'z') || ('0' ≤ c && c ≤ '9') || c = '_' || c = '-'

def matchesToken (token : String) : Bool := token.toList.length = 43 && token.toList.all isTokenChar

def tokenUrlsafe (random : RandomBytes 32) : String := Base64Url.encode random.bytes

section Store

variable (digest : String → List UInt8 → List UInt8) (S : AdministrativeStore)

def status : TokenStatus := ⟨S.authRecord.isSome, S.authRecord.map AuthRecord.changedAt⟩

def record (token : String) (salt : RandomBytes 16) (now : Time) : AuthRecord :=
  ⟨salt.bytes, digest token salt.bytes, now⟩

def replace (random : RandomBytes 32) (salt : RandomBytes 16) (now : Time) : String × AdministrativeStore :=
  (tokenUrlsafe random, S.setAuthRecord (record digest (tokenUrlsafe random) salt now))

def bootstrap (random : RandomBytes 32) (salt : RandomBytes 16) (now : Time) :
    Except String (String × AdministrativeStore) :=
  if S.authRecord.isSome then .error "administrator token is already configured"
  else .ok (replace digest S random salt now)

def rotate (random : RandomBytes 32) (salt : RandomBytes 16) (now : Time) : String × AdministrativeStore :=
  replace digest S random salt now

def passes (r : AuthRecord) (token : String) : Bool := matchesToken token && digest token r.salt = r.digest

def verify (token : String) : Bool :=
  if matchesToken token then
    match S.authRecord with
    | none => false
    | some r => digest token r.salt = r.digest
  else false

end Store

variable {digest : String → List UInt8 → List UInt8}

theorem verify_eq (digest : String → List UInt8 → List UInt8) (S : AdministrativeStore) (token : String) :
    verify digest S token = S.authRecord.any (fun r => passes digest r token) := by
  unfold verify passes
  cases S.authRecord <;> cases matchesToken token <;> rfl

end AdministratorTokens

end PitbluCore
