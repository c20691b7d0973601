import StatusTimeline.Internet.Url
import StatusTimeline.Text.Integer
import StatusTimeline.Text.Quoted
import StatusTimeline.Text.Utf8

/-!
This module contains the addresses of databases: locators whose query may hold settings of the connection.
-/

namespace StatusTimeline

inductive AddressFlaw where
  | url (why : Internet.UrlFlaw)
  | text (why : Utf8Flaw)
  | number (why : NumberFlaw)
  | hostAddress
  | encryption (mode : String)
deriving DecidableEq, Inhabited, Repr

def AddressFlaw.message : AddressFlaw → String
  | url why => why.message
  | text why => why.message
  | number why => why.message
  | hostAddress => "invalid IP address syntax"
  | encryption mode =>
    "error with configuration: unknown value " ++ quoted mode ++ " for `ssl_mode`"

namespace DatabaseAddress

def encryptionModes : List String :=
  ["disable", "allow", "prefer", "require", "verify-ca", "verify-full"]

def partFlaw? (part : List Char) : Option AddressFlaw :=
  (utf8Flaw? (percentDecode part)).map .text

/--
What is wrong with a setting. Settings of other names may have any value.
-/
def settingFlaw? (name value : String) : Option AddressFlaw :=
  match name with
  | "sslmode" => encryptionFlaw
  | "ssl-mode" => encryptionFlaw
  | "statement-cache-capacity" => (numberFlaw? UInt64.size value.toList).map .number
  | "port" => (numberFlaw? UInt16.size value.toList).map .number
  | "hostaddr" => if Internet.isAddress value then none else some .hostAddress
  | _ => none
where
  encryptionFlaw : Option AddressFlaw :=
    if encryptionModes.contains (asciiLower value) then none else some (.encryption value)

/--
What is wrong with a host. One that starts with a slash once it is decoded is the path of a socket.
-/
def hostFlaw? (host : List Char) : Option AddressFlaw :=
  if (percentDecode host).head? = some 47 then partFlaw? host else none

/--
The first thing that is wrong with an address: with its form, its host, its user and password, or the settings
in its query, in this order.
-/
def flaw? (address : String) : Option AddressFlaw :=
  match Internet.Url.ofText address with
  | .error why => some (.url why)
  | .ok url =>
    hostFlaw? url.host <|> partFlaw? url.user <|> partFlaw? url.password <|>
      (formPairs (.ofList url.query)).findSome? fun (name, value) =>
        settingFlaw? (utf8Lossy name) (utf8Lossy value)

end DatabaseAddress

end StatusTimeline
