import SiteVpn.Connection.Error
import SiteVpn.Text.Blank
import SiteVpn.Xml.Reader

/-!
# Customer gateway documents

The document of a connection describes its tunnels in order. A field of a tunnel
is the text at a path below the tunnel's element, without blanks at its ends, and
a field without text is absent. A connection uses BGP unless its attributes hold
the marker of static routing.
-/

namespace SiteVpn

/-- The fields of a tunnel as they stand in its document. -/
structure TunnelElement where
  customerOutsideAddress : Option String
  customerAsn : Option String
  gatewayOutsideAddress : Option String
  gatewayInsideAddress : Option String
  insidePrefixLength : Option String
  gatewayAsn : Option String
  preSharedKey : Option String
  ikeLifetime : Option String
  ipsecLifetime : Option String
deriving DecidableEq, Repr, Inhabited

namespace TunnelElement

def customerOutsideAddressPath : List String :=
  ["customer_gateway", "tunnel_outside_address", "ip_address"]

def customerAsnPath : List String := ["customer_gateway", "bgp", "asn"]

def gatewayOutsideAddressPath : List String :=
  ["vpn_gateway", "tunnel_outside_address", "ip_address"]

def gatewayInsideAddressPath : List String :=
  ["vpn_gateway", "tunnel_inside_address", "ip_address"]

def insidePrefixLengthPath : List String :=
  ["vpn_gateway", "tunnel_inside_address", "network_cidr"]

def gatewayAsnPath : List String := ["vpn_gateway", "bgp", "asn"]

def preSharedKeyPath : List String := ["ike", "pre_shared_key"]

def ikeLifetimePath : List String := ["ike", "lifetime"]

def ipsecLifetimePath : List String := ["ipsec", "lifetime"]

/-- The text of a field, unless it is blank. -/
def fieldText (content : List Char) : Option String :=
  match Text.trim content with
  | [] => none
  | c :: cs => some (String.ofList (c :: cs))

/-- The text at a path below an element. -/
def textAt (e : Xml.Node) (path : List String) : Option String :=
  (e.follow path).bind fun n => fieldText n.textContent

/-- The fields of the element of a tunnel. -/
def ofNode (e : Xml.Node) : TunnelElement where
  customerOutsideAddress := textAt e customerOutsideAddressPath
  customerAsn := textAt e customerAsnPath
  gatewayOutsideAddress := textAt e gatewayOutsideAddressPath
  gatewayInsideAddress := textAt e gatewayInsideAddressPath
  insidePrefixLength := textAt e insidePrefixLengthPath
  gatewayAsn := textAt e gatewayAsnPath
  preSharedKey := textAt e preSharedKeyPath
  ikeLifetime := textAt e ikeLifetimePath
  ipsecLifetime := textAt e ipsecLifetimePath

end TunnelElement

/-- What a customer gateway document says about a connection. -/
structure GatewayDocument where
  isBgp : Bool
  /-- The tunnels in the order of the document. -/
  tunnels : List TunnelElement
deriving DecidableEq, Repr, Inhabited

namespace GatewayDocument

def connectionName : String := "vpn_connection"

def attributesName : String := "vpn_connection_attributes"

def tunnelName : String := "ipsec_tunnel"

/-- The marker of static routing in the attributes of a connection. -/
def staticMarker : String := "NoBGP"

/-- Whether the element of a connection is about one that uses BGP. -/
def usesBgp (connection : Xml.Node) : Bool :=
  match connection.descendants.find? (·.isElement attributesName) with
  | none => true
  | some attributes => !Xml.hasMark staticMarker.toList attributes.textContent

/-- What a document says, if it has the element of a connection. -/
def ofDocument? (d : Xml.Document) : Option GatewayDocument :=
  match d.elements connectionName with
  | [] => none
  | connection :: _ =>
    some ⟨usesBgp connection, (d.elements tunnelName).map TunnelElement.ofNode⟩

/-- Reads the document of a connection. -/
def read (connection text : String) : Except ConnectionError GatewayDocument :=
  match Xml.Document.read text.toList with
  | none => .error (.malformedDocument connection text)
  | some d =>
    match ofDocument? d with
    | none => .error (.missingElement connection [connectionName])
    | some g => .ok g

end GatewayDocument

end SiteVpn
