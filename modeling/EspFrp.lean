import EspFrp.Yamux.Peer
import EspFrp.Yamux.Fragments
import EspFrp.Yamux.Deadlines
import EspFrp.Yamux.Rotation
import EspFrp.Transport.Fairness
import EspFrp.Aead.RoundTrip
import EspFrp.Flash.Isolation
import EspFrp.Binding.Separation
import EspFrp.Control.Isolation
import EspFrp.Work.Early
import EspFrp.Transport.Pump
import EspFrp.Quic.Credit
import EspFrp.Datagram.Prefixes
import EspFrp.NatHole.Rejection
import EspFrp.NatHole.Candidates
import EspFrp.Local.Dns
import EspFrp.Xtcp.Codec
