import ClusterDriver.Bytes
import ClusterDriver.DriverError
import ClusterDriver.Text.Quoted

set_option autoImplicit false

namespace ClusterDriver

structure Credentials where
  username : String
  password : String
deriving DecidableEq, Repr

namespace Credentials

def plainToken (credentials : Credentials) : ByteArray :=
  bytesOfList [0] ++ credentials.username.toUTF8 ++ bytesOfList [0] ++ credentials.password.toUTF8

def accepts (credentials : Credentials) (token : ByteArray) : Bool :=
  credentials.plainToken = token

def describe (credentials : Credentials) : String :=
  "Credentials \x7b username: " ++ Text.quoted credentials.username
    ++ ", password: \"*****\" \x7d"

end Credentials

inductive AuthPrompt where
  | mechanism (name : String)
  | challenge (bytes : ByteArray)
deriving DecidableEq

/-- Answers a server's prompts; `earlier` holds the prompts before, the latest first. -/
structure Authenticator where
  respond : (earlier : List AuthPrompt) → AuthPrompt → Except DriverError ByteArray

namespace Authenticator

def plainText (credentials : Credentials) : Authenticator where
  respond _ prompt :=
    match prompt with
    | .mechanism _ => .ok credentials.plainToken
    | .challenge _ =>
        .error (.authentication "Plain text authentication does not accept challenges")

def describePlainText (credentials : Credentials) : String :=
  "PlainTextAuthenticator \x7b credentials: " ++ credentials.describe ++ " \x7d"

end Authenticator

structure AuthConfig where
  credentials : Option Credentials := none
deriving DecidableEq, Repr, Inhabited

namespace AuthConfig

def requiresAuth (config : AuthConfig) : Bool := config.credentials.isSome

def authenticator? (config : AuthConfig) : Option Authenticator :=
  config.credentials.map Authenticator.plainText

def acceptsToken (config : AuthConfig) (token : ByteArray) : Bool :=
  -- Without credentials every token is accepted.
  match config.credentials with
  | some credentials => credentials.accepts token
  | none => true

def text (config : AuthConfig) : String :=
  match config.credentials with
  | some credentials => "PlainText(" ++ credentials.username ++ ", *****)"
  | none => "Disabled"

end AuthConfig

end ClusterDriver
