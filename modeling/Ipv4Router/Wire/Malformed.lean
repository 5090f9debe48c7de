/-
This file names the reasons for which received octets are discarded before anything
acts on them: a part is cut short, an IPv4 header contradicts itself, or a RIP
message has a version or a command that the router does not speak.
-/

namespace Ipv4Router

/-- The parts of a frame whose length is checked. -/
inductive Part
  | ethernet
  | arp
  | ipv4
  | icmp
  | udp
  | tcp
  | rip
  | ripEntry
deriving DecidableEq

/-- The fields of an IPv4 header that are checked. -/
inductive HeaderField
  | version
  | headerLength
  | totalLength
deriving DecidableEq

/-- Why received octets are discarded. -/
inductive Malformed
  | truncated (part : Part)
  | invalidHeader (field : HeaderField)
  | unsupportedVersion (version : UInt8)
  | unknownCommand (command : UInt8)
deriving DecidableEq

namespace Part

def text : Part → String
  | ethernet => "Ethernet"
  | arp => "ARP"
  | ipv4 => "IPv4"
  | icmp => "ICMP"
  | udp => "UDP"
  | tcp => "TCP"
  | rip => "RIP"
  | ripEntry => "RIP entry"

end Part

namespace HeaderField

def text : HeaderField → String
  | version => "version"
  | headerLength => "header length"
  | totalLength => "total length"

end HeaderField

namespace Malformed

/-- The reason in words. -/
def message : Malformed → String
  | truncated part => s!"truncated {part.text} header"
  | invalidHeader field => s!"invalid IPv4 header: {field.text}"
  | unsupportedVersion version => s!"unsupported RIP version {version}"
  | unknownCommand command => s!"unknown RIP command {command}"

end Malformed

end Ipv4Router
