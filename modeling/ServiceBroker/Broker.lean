import ServiceBroker.Json.Record
import ServiceBroker.Text.Base64
import ServiceBroker.Text.Utf8

/-!
# A broker

A `Broker` is where a broker listens and who asks. Its URL may end in slashes,
which requests leave out. The credentials go into one header and nowhere else;
a broker's description shows a placeholder for the password.
-/

namespace ServiceBroker

open Json (Record)

/-- The version of the interface that a client speaks unless told otherwise. -/
def defaultApiVersion : String := "2.17"

/-- **Where a broker listens and who asks.** -/
structure Broker where
  url : String
  username : String
  password : String
  apiVersion : String := defaultApiVersion
deriving DecidableEq, Repr

/-- A text without the slashes at its end. -/
def stripSlashes (text : String) : String :=
  String.ofList (text.toList.reverse.dropWhile (· = '/')).reverse

namespace Broker

/-- **A broker by its URL and credentials**, the slashes at the end of the URL
dropped. -/
def make (url username password : String) : Broker :=
  { url := stripSlashes url, username, password }

/-- The members of a broker. Its URL is kept as written. -/
def record : Record Broker where
  name := "Broker"
  fields :=
    .cons (.required "url" Json.stringReader) <|
    .cons (.required "username" Json.stringReader) <|
    .cons (.required "password" Json.stringReader) <|
    .cons (.withDefault "api_version" Json.stringReader defaultApiVersion) .nil
  build := fun (url, username, password, apiVersion, ()) => { url, username, password, apiVersion }

/-- **The URL that paths are appended to.** -/
def baseUrl (broker : Broker) : String := stripSlashes broker.url

/-- The value of the authorization header for a name and a password. -/
def basicAuthorization (username password : String) : String :=
  "Basic " ++ String.ofList (Text.base64 (Text.Utf8.encode (username ++ ":" ++ password).toList))

/-- **The value of the authorization header.** -/
def authorization (broker : Broker) : String :=
  basicAuthorization broker.username broker.password

/-- **A description for diagnostics**, the password left out. -/
def description (broker : Broker) : String :=
  "Broker \x7b url: " ++ Text.quoted broker.url
    ++ ", username: " ++ Text.quoted broker.username
    ++ ", password: \"<redacted>\", api_version: " ++ Text.quoted broker.apiVersion ++ " \x7d"

end Broker

end ServiceBroker
