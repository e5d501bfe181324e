import MarketTicker.Message.Tick
import MarketTicker.Proofs.Json.Shape

namespace MarketTicker

open Json

theorem Mode.restores (m : Mode) : Restores readJson writeJson m :=
  restores_choice (ofName?_name m)

theorem restores_word32 (w : UInt32) : Restores word32 writeWord32 w :=
  (solid_word32 w).restores

theorem restores_decimal (d : Decimal) : Restores readDecimal writeDecimal d :=
  (solid_decimal d).restores

namespace DepthLevel

theorem restated (l : DepthLevel) : ∃ sets, List.Forall₂ (fun field set => Member.Keeps field l set) fields sets ∧
    sets.foldl (fun r set => set r) default = l :=
  ⟨_, .cons ((restores_word32 _).member ..) <| .cons ((restores_decimal _).member ..) <|
    .cons ((restores_word16 _).member ..) .nil, rfl⟩

theorem restores (l : DepthLevel) : Restores schema.read schema.write l := by
  obtain ⟨sets, hkeeps, hwhole⟩ := l.restated
  exact Schema.restores (s := schema) hkeeps (by decide) hwhole

end DepthLevel

namespace DepthSide

theorem restores (s : DepthSide) : Restores readJson writeJson s := by
  have hlist : Restores (exactly 5 DepthLevel.schema.read _) (writeList DepthLevel.schema.write) s.toList :=
    restores_exactly "an array of length 5" rfl fun l _ => l.restores
  exact ⟨hlist.opens, hlist.reads.map fun ls => (ofList? ls).getD default⟩

end DepthSide

namespace Depth

theorem restated (d : Depth) : ∃ sets, List.Forall₂ (fun field set => Member.Keeps field d set) fields sets ∧
    sets.foldl (fun r set => set r) default = d :=
  ⟨_, .cons (d.bids.restores.member ..) <| .cons (d.offers.restores.member ..) .nil, rfl⟩

theorem restores (d : Depth) : Restores schema.read schema.write d := by
  obtain ⟨sets, hkeeps, hwhole⟩ := d.restated
  exact Schema.restores (s := schema) hkeeps (by decide) hwhole

end Depth

namespace Tick

theorem restated (t : Tick) : ∃ sets, List.Forall₂ (fun field set => Member.Keeps field t set) fields sets ∧
    sets.foldl (fun r set => set r) default = t := by
  have hword {name get set} : (wordField name get set).Keeps t (set (get t)) := (restores_word32 _).member ..
  have hprice {name get set} : (priceField name get set).Keeps t (set (get t)) := (restores_decimal _).member ..
  have htime {name get set} : (timeField name get set).Keeps t (set (get t)) :=
    (restores_option restores_instant (fun _ => nofun) _).member ..
  have hdepth := restores_option Depth.restores (fun _ => nofun) t.depth
  exact ⟨_, .cons (t.mode.restores.member ..) <| .cons hword <| .cons ((restores_boolean _).member ..) <|
    .cons hprice <| .cons hword <| .cons hprice <| .cons hword <| .cons hword <| .cons hword <| .cons hprice <|
    .cons hprice <| .cons hprice <| .cons hprice <| .cons hprice <| .cons htime <| .cons htime <| .cons hword <|
    .cons hword <| .cons hword <| .cons (hdepth.member ..) .nil, rfl⟩

/-- Whatever a packet is decoded to is read from what is written of it as the same in all fields, and from an
array of the fields in their order too. -/
theorem survives_json (t : Tick) :
    readAll schema.read (schema.write t) = .ok t ∧
      ∀ (inner : Blanks) (items : List ItemText), items.map ItemText.text = fields.map (fun field => field.write t) →
        readAll schema.read (listText inner items) = .ok t := by
  obtain ⟨sets, hkeeps, hwhole⟩ := t.restated
  refine ⟨?_, fun inner items hitems => ?_⟩
  · exact (Schema.restores (s := schema) hkeeps (by decide) hwhole).reads.readAll
  · exact (Schema.reads_listed (s := schema) inner hkeeps hwhole hitems).readAll

end Tick

end MarketTicker
