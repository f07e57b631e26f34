import AclReconcile.Address.Url

/-!
# Endpoints of an object store

The client of an object store is made from an endpoint, a host with an optional port, and
whether to use TLS. The endpoint becomes the URL "https://endpoint" or "http://endpoint", less
the default port of that scheme when the endpoint ends with it. The URL must be readable, have
no path beyond "/", and name its host by an IP address or a domain name; an Amazon or Google
host must be one of their storage services.
-/

namespace AclReconcile.ObjectStore

open Address

/-- Whether a text occurs in another. -/
def occursIn (needle haystack : String) : Bool := (haystack.splitOn needle).length > 1

/-- The region an Amazon host names, "" when it names none: the text between "s3" with the
character after it and a character followed by "amazonaws", any character and "com" at the
end (or "com", a character and "cn" for a region starting with "cn"). -/
def amazonRegion (host : String) : String :=
  let cs := host.toList
  let n := cs.length
  let wordAt (i : Nat) (word : String) : Bool := (cs.drop i).take word.length == word.toList
  let middle (suffix : Nat) : String := String.ofList ((cs.drop 3).take (n - 3 - suffix))
  if host == "s3-external-1.amazonaws.com" || !wordAt 0 "s3" then ""
  else if n ≥ 22 && wordAt (n - 16) "amazonaws" && wordAt (n - 6) "com" && wordAt (n - 2) "cn" &&
      wordAt 3 "cn" then
    middle 17
  else if n ≥ 18 && wordAt (n - 13) "amazonaws" && wordAt (n - 3) "com" then middle 14
  else ""

/-- Whether a URL names an Amazon storage host. -/
def isAmazonEndpoint (u : Url) : Bool :=
  u.host == "s3-external-1.amazonaws.com" || u.host == "s3.amazonaws.com" ||
    !(amazonRegion u.hostname).isEmpty

/-- The URL of an endpoint, or the report of why the client refuses it. -/
def endpointUrl (endpoint : String) (secure : Bool) : Except String Url := do
  let cut (n : Nat) : String := String.ofList (endpoint.toList.take (endpoint.length - n))
  let endpoint :=
    if secure && endpoint.endsWith ":443" then cut 4
    else if !secure && endpoint.endsWith ":80" then cut 3
    else endpoint
  let u ← (Url.parse ((if secure then "https" else "http") ++ "://" ++ endpoint)).mapError
    (·.message)
  if u.path != "/" && u.path != "" then throw "Endpoint url cannot have fully qualified paths."
  let host := u.hostname
  if !isIP host && !isDomain host then
    throw ("Endpoint: " ++ u.host ++ " does not follow ip address or domain name standards.")
  if occursIn ".s3.amazonaws.com" host && !isAmazonEndpoint u then
    throw "Amazon S3 endpoint should be 's3.amazonaws.com'."
  if occursIn ".googleapis.com" host && host != "storage.googleapis.com" then
    throw "Google Cloud Storage endpoint should be 'storage.googleapis.com'."
  pure u

end AclReconcile.ObjectStore
