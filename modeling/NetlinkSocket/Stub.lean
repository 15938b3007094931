import NetlinkSocket.World

/-!
A family that accepts every socket, implements nothing, and records what it is asked for.
-/

namespace NetlinkSocket.Stub

structure Options where
  capabilities : Capabilities
  attaches : Bool
  refusesClose : Bool

def unsupported {α : Type} (call : FamilyCall) (w : World) : Outcome α × World :=
  fails (.bare .operationUnsupported) (w.record [.family call])

def unsupportedOn {α : Type} (call : FamilyCall) (buffers : List Bytes) (w : World) :
    Filling α × World :=
  halts (.bare .operationUnsupported) buffers (w.record [.family call])

def family (t : Options) : Family World Attachment where
  setup h protocol w :=
    (.ok (), if t.attaches then { h with connection := some .foreign } else h,
      w.record [.setup protocol])
  capabilities _ := t.capabilities
  addReference _ w := (.ok (), w.record [.family .addReference])
  bind _ _ _ := unsupported .bind
  name _ buffer := unsupportedOn .name [buffer]
  peerName _ buffer := unsupportedOn .peerName [buffer]
  connect _ _ := unsupported .connect
  arm _ _ := unsupported .arm
  disarm _ _ := unsupported .disarm
  send _ _ _ := unsupported .send
  sendTo _ _ _ _ := unsupported .sendTo
  receive _ buffer _ sender w :=
    let (outcome, w) := unsupportedOn .receive (buffer :: sender.toList) w
    (.finished outcome, w)
  close h w :=
    let w := w.record [.family .close]
    if t.refusesClose then (.error (.failed .closeRefused), h, w)
    else (.ok (), { h with connection := none }, w)
  log line w := w.log [line]

end NetlinkSocket.Stub
