import NodeFleet.Url.Basic

/-!
The URL under which nodes reach the panel.

It has to be a URL of the web with a host that other machines can reach, so neither `localhost` nor
an address of the host itself. It is kept in its canonical form without slashes at the end.
-/

namespace NodeFleet.Url

/-- A list of characters without a given character at its end. -/
def trimEndOf (c : Char) (cs : List Char) : List Char :=
  (cs.reverse.dropWhile (· = c)).reverse

/-- Whether a domain is `localhost` or below it. -/
def isLocalDomain (name : List Char) : Bool :=
  ((Text.splitAll '.' (trimEndOf '.' name)).getLast?).any fun last =>
    last.map lowerAscii = "localhost".toList

/-- The address of a host that is one; an IPv4 address may be written as IPv6. -/
def Host.address? : Host → Option IpAddress
  | .domain _ => none
  | .ipv4 ip => some (.v4 ip)
  | .ipv6 ip =>
    match ip.mapped? with
    | some v4 => some (.v4 v4)
    | none => some (.v6 ip)

/-- Refuses a host that other machines cannot reach. -/
def checkHost (host : Host) : Except Error Unit :=
  match host with
  | .domain name =>
    if isLocalDomain name then
      .error (.validation
        "panel_url не может указывать на localhost: узел не сможет до него достучаться")
    else .ok ()
  | host =>
    if host.address?.any fun ip => ip.isLoopback || ip.isUnspecified then
      .error (.validation
        "panel_url не может указывать на loopback-адрес: узел не сможет до него достучаться")
    else .ok ()

/-- The URL of the panel in its canonical form. -/
def panelUrl (s : String) : Except Error String :=
  let wrongScheme : Error := .validation "panel_url должен начинаться с http:// или https://"
  match read? s with
  | none => .error (.validation "Некорректный panel_url")
  | some (.other _) => .error wrongScheme
  | some (.web url) =>
    if url.scheme = "http".toList ∨ url.scheme = "https".toList then do
      checkHost url.host
      .ok (String.ofList (trimEndOf '/' url.chars))
    else .error wrongScheme

end NodeFleet.Url
