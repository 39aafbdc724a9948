import CardHost.Card

namespace CardHost.Card

def negotiateUntilReady (opCond : UInt32) : Nat → Card → Card
  | 0, card => card
  | attempts + 1, card =>
    let (_, card) := card.execute Opcode.application 0
    let (reply, card) := card.execute AppOpcode.sendOpCond opCond
    match reply with
    | some (.shortNoCrc word) =>
      if anyBit word OpCond.ready then card else negotiateUntilReady opCond attempts card
    | _ => negotiateUntilReady opCond attempts card

def bringUp (card : Card) (opCond : UInt32) : Card :=
  let (_, card) := card.execute Opcode.goIdle 0
  let (_, card) := card.execute Opcode.sendInterfaceCond 0x1aa
  let card := negotiateUntilReady opCond 8 card
  let (_, card) := card.execute Opcode.allSendCid 0
  let (_, card) := card.execute Opcode.sendRelativeAddress 0
  (card.execute Opcode.selectCard (card.address.toUInt32 <<< 16)).2

end CardHost.Card
