import ClusterDriver.Json
import ClusterDriver.Text.Hex

set_option autoImplicit false

namespace ClusterDriver.Json

def escapedChar (c : Char) : String :=
  if c = '"' then "\\\""
  else if c = '\\' then "\\\\"
  else if c = '\n' then "\\n"
  else if c = '\r' then "\\r"
  else if c = '\t' then "\\t"
  else if c.toNat < 0x20 then "\\u" ++ Text.hex 4 c.toNat
  else c.toString

def quotedText (text : String) : String :=
  "\"" ++ text.foldl (fun written c => written ++ escapedChar c) "" ++ "\""

mutual

def writeTo (written : String) : Json → String
  | .null => written ++ "null"
  | .bool value => written ++ (if value then "true" else "false")
  | .number value => written ++ (match value with
      | some value => toString value
      | none => "null")
  | .string text => written ++ (match text with
      | some text => quotedText text
      | none => "null")
  | .array items => (writeItems (written ++ "[") true items) ++ "]"
  | .object members => (writeMembers (written ++ "\x7b") true members) ++ "\x7d"

def writeItems (written : String) (first : Bool) : List Json → String
  | [] => written
  | item :: rest =>
      writeItems (writeTo (if first then written else written ++ ",") item) false rest

def writeMembers (written : String) (first : Bool) : List (Option String × Json) → String
  | [] => written
  | (name, value) :: rest =>
      let start := (if first then written else written ++ ",") ++ quotedText (name.getD "") ++ ":"
      writeMembers (writeTo start value) false rest

end

def toText (value : Json) : String := writeTo "" value

end ClusterDriver.Json
