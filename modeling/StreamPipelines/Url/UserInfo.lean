import StreamPipelines.Url.Basic

/-!
The credentials in a web address. They are written with percent escapes, which have to resolve to
UTF-8.
-/

namespace StreamPipelines
namespace Url

/-- The text that a part of an address stands for. -/
def decodedPart (cs : List Char) : Option String :=
  Text.ofUtf8? (percentDecode (cs.flatMap String.utf8EncodeChar))

/-- A user name, which may be empty, and perhaps a password. A password that cannot be read is
left out; with a user name that cannot be read there are no credentials. -/
def userInfo (u : Url) : Option (String × Option String) :=
  match decodedPart u.username with
  | none => none
  | some username =>
      let password := u.password.bind decodedPart
      if username.isEmpty && password.isNone then none else some (username, password)

def withoutUserInfo (u : Url) : Url :=
  { u with username := [], password := none }

end Url
end StreamPipelines
