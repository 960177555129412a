import AeroGateway.Feed.Udp
import AeroGateway.Feed.Address
import AeroGateway.Config.Load

/-!
# The UDP publisher

`UdpPublisher::init` stores the target address and port and opens a non-blocking datagram
socket; `publish` serializes a book and hands it to `sendto` with the address `inet_pton` reads
from the stored text and the port `htons` takes from the stored `int`. `main` builds one
publisher, initialises it from `app_config` when the feed is enabled, and hands it to both
connections.

A publisher sends exactly when its socket is open and its address parses, and then sends every
datagram to one destination. After a successful `config_load` that destination is the dotted
quad `UDP_FEED_ADDRESS` spells and `UDP_FEED_PORT` modulo 2^16: the 63-byte cut of the address
never matters, since no text that long parses, while the port's conversion to `uint16_t` does.
-/

namespace AeroGateway.Feed

open Market Config

/-- The `UdpPublisher`'s members. -/
structure UdpPublisher where
  socketFd : Int
  targetAddress : Bytes
  targetPort : Int
  deriving DecidableEq, Repr

/-- `UdpPublisher()`: no socket, port 0, no address. -/
def UdpPublisher.new : UdpPublisher := ⟨-1, [], 0⟩

/-- What the system answers to `init`: the descriptor `socket(AF_INET, SOCK_DGRAM, 0)` returns,
and whether both `fcntl` calls (reading the flags, then adding `O_NONBLOCK`) succeed; either
failure closes the socket the same way. -/
structure SocketAnswer where
  fd : Int
  fcntlOk : Bool
  deriving DecidableEq, Repr

/-- `init(address, port)`, and what it returns. -/
def UdpPublisher.init (p : UdpPublisher) (address : Bytes) (port : Int) (os : SocketAnswer) :
    UdpPublisher × Bool :=
  let p := { p with targetAddress := address, targetPort := port, socketFd := os.fd }
  if p.socketFd < 0 then (p, false)
  else if os.fcntlOk then (p, true)
  else ({ p with socketFd := -1 }, false)

/-- `close`. -/
def UdpPublisher.close (p : UdpPublisher) : UdpPublisher :=
  if 0 ≤ p.socketFd then { p with socketFd := -1 } else p

/-- `is_initialized`. -/
def UdpPublisher.isInitialized (p : UdpPublisher) : Bool := decide (0 ≤ p.socketFd)

/-- One `sendto`: the datagram, and the address and port of `dest_addr`. -/
structure Sendto where
  buf : Bytes
  addr : List UInt8
  port : UInt16
  deriving DecidableEq, Repr

/-- The port `htons(target_port_)` swaps: the `int` converted to `uint16_t`. -/
def UdpPublisher.port (p : UdpPublisher) : UInt16 := UInt16.ofNat (p.targetPort % 2 ^ 16).toNat

/-- `dest_addr`, when `inet_pton` accepts `target_address_.c_str()`. -/
def UdpPublisher.destination (p : UdpPublisher) : Option (List UInt8 × UInt16) :=
  (inetPton4 (cString p.targetAddress)).map (·, p.port)

/-- `publish`: what `serialize_and_send` hands to `sendto`, if it gets that far; `nowNs` is its
`steady_clock` reading. -/
def UdpPublisher.publish (p : UdpPublisher) (book : ParsedOrderBook) (exchangeId : ExchangeId)
    (nowNs : UInt64) : List Sendto :=
  if p.socketFd < 0 then []
  else match p.destination with
    | some (addr, port) => [⟨serializeAndSend book exchangeId nowNs, addr, port⟩]
    | none => []

/-- The `sendto` of a book's datagram to `d`. -/
def sendtoOf (d : List UInt8 × UInt16) (book : ParsedOrderBook) (exchangeId : ExchangeId)
    (nowNs : UInt64) : Sendto :=
  ⟨serializeAndSend book exchangeId nowNs, d.1, d.2⟩

/-- Where an initialised publisher sends, if anywhere. -/
def UdpPublisher.sendsTo (p : UdpPublisher) : Option (List UInt8 × UInt16) :=
  if p.isInitialized then p.destination else none

/-- The publisher `main` hands to both connections: `make_unique<UdpPublisher>()`, then
`init(app_config.udp_feed_address, app_config.udp_feed_port)` when the feed is enabled. -/
def mainPublisher (late : LateSettings) (os : SocketAnswer) : UdpPublisher :=
  if late.udpFeedEnabled then (UdpPublisher.new.init (cString late.udpFeedAddress) late.udpFeedPort os).1
  else UdpPublisher.new

/-! ## One publisher -/

/-- `publish` sends one datagram, the book serialized, to wherever the publisher sends. -/
theorem publish_eq (p : UdpPublisher) (book : ParsedOrderBook) (exchangeId : ExchangeId)
    (nowNs : UInt64) :
    p.publish book exchangeId nowNs =
      (p.sendsTo.map (sendtoOf · book exchangeId nowNs)).toList := by
  unfold UdpPublisher.publish UdpPublisher.sendsTo UdpPublisher.isInitialized
  by_cases h : p.socketFd < 0
  · have h' : ¬0 ≤ p.socketFd := Int.not_le.mpr h
    simp [h, h']
  · have h' : 0 ≤ p.socketFd := Int.not_lt.mp h
    simp only [h, h', if_false, decide_True, if_true]
    cases p.destination <;> rfl

/-- The publisher has somewhere to send exactly when its target text, read as a C string, is
what `NetworkUtils::ip_to_string` prints for some address; it then sends to that address's bytes
in network order and to its port. -/
theorem destination_eq_some_iff (p : UdpPublisher) (d : List UInt8 × UInt16) :
    p.destination = some d ↔
      ∃ ip : UInt32, cString p.targetAddress = ipToString ip ∧ d = (ipBytes ip, p.port) := by
  simp only [UdpPublisher.destination, Option.map_eq_some', inetPton4_eq_some_iff_ipToString]
  constructor
  · rintro ⟨_, ⟨ip, rfl, hs⟩, rfl⟩
    exact ⟨ip, hs, rfl⟩
  · rintro ⟨ip, hs, rfl⟩
    exact ⟨_, ⟨ip, rfl, hs⟩, rfl⟩

/-- `init` returns whether it left the publisher initialised, which is when the socket opened
and both `fcntl` calls succeeded; it always stores the target. -/
theorem init_spec (p : UdpPublisher) (address : Bytes) (port : Int) (os : SocketAnswer) :
    (p.init address port os).2 = (p.init address port os).1.isInitialized ∧
      (p.init address port os).2 = (decide (0 ≤ os.fd) && os.fcntlOk) ∧
      (p.init address port os).1.targetAddress = address ∧
      (p.init address port os).1.targetPort = port := by
  unfold UdpPublisher.init UdpPublisher.isInitialized
  dsimp only
  by_cases h : os.fd < 0
  · simp [h, Int.not_le.mpr h]
  · cases os.fcntlOk <;> simp [h, Int.not_lt.mp h]

/-- `close` leaves a publisher that sends nothing. -/
theorem sendsTo_close (p : UdpPublisher) : p.close.sendsTo = none := by
  unfold UdpPublisher.close UdpPublisher.sendsTo UdpPublisher.isInitialized
  by_cases h : 0 ≤ p.socketFd <;> simp [h]

/-- The publisher `main` sends where the settings say, when the feed is enabled and the socket
opens: the address `inet_pton` reads from the stored C string, and the port modulo 2^16. -/
theorem mainPublisher_sendsTo (late : LateSettings) (os : SocketAnswer) :
    (mainPublisher late os).sendsTo =
      if late.udpFeedEnabled && decide (0 ≤ os.fd) && os.fcntlOk then
        (inetPton4 (cString late.udpFeedAddress)).map
          (·, UInt16.ofNat (late.udpFeedPort % 2 ^ 16).toNat)
      else none := by
  have hnew : UdpPublisher.new.sendsTo = none := rfl
  have hcs : cString (cString late.udpFeedAddress) = cString late.udpFeedAddress :=
    List.takeWhile_idem
  unfold mainPublisher
  cases hen : late.udpFeedEnabled
  · exact hnew
  · have ⟨hret, hok, haddr, hport⟩ := init_spec UdpPublisher.new (cString late.udpFeedAddress)
      late.udpFeedPort os
    simp only [UdpPublisher.sendsTo, ← hret, hok, Bool.true_and, if_true]
    split_ifs <;> simp only [UdpPublisher.destination, UdpPublisher.port, haddr, hport, hcs]

/-! ## The feed after `config_load` -/

/-- After a successful `config_load`, `main`'s publisher sends, when `UDP_FEED_ENABLED` reads as
true and the socket opens, to the dotted quad `UDP_FEED_ADDRESS` spells, whole, and to
`UDP_FEED_PORT` modulo 2^16; otherwise nowhere. -/
theorem main_feed_destination (F : FloatOps) (env : Env) (cfg : AppConfig) (os : SocketAnswer)
    (h : (configLoad F env cfg).ret = 0) :
    (mainPublisher (configLoad F env cfg).config.late os).sendsTo =
      if isTrue (getOptionalText env "UDP_FEED_ENABLED" "true") && decide (0 ≤ os.fd) &&
          os.fcntlOk then
        (inetPton4 (getOptionalText env "UDP_FEED_ADDRESS" "127.0.0.1")).map
          (·, UInt16.ofNat (atoi (getOptionalText env "UDP_FEED_PORT" "13988") % 2 ^ 16).toNat)
      else none := by
  rw [late_of_configLoad h, mainPublisher_sendsTo]
  simp only [lateFrom]
  rw [cString_copyAddress (getOptionalText_no_nul env _ _ (by decide)), inetPton4_take (by decide)]

/-- The load of a `UDP_FEED_PORT` of 79524, which is 13988 past 2^16. -/
def wrappedPortEnv : Env :=
  envOf (("UDP_FEED_PORT", "79524") :: requiredVars.map (·, "key")) (by decide)

/-- With `UDP_FEED_PORT=79524` the feed goes to port 13988 of the default address. -/
theorem main_feed_destination_wrapped :
    (configLoad zeroStrtod wrappedPortEnv AppConfig.zero).ret = 0 ∧
      (mainPublisher (configLoad zeroStrtod wrappedPortEnv AppConfig.zero).config.late
          ⟨3, true⟩).sendsTo = some ([127, 0, 0, 1], 13988) :=
  ⟨by decide, (main_feed_destination zeroStrtod wrappedPortEnv AppConfig.zero ⟨3, true⟩
    (by decide)).trans (by decide)⟩

end AeroGateway.Feed
