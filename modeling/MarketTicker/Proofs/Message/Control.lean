import MarketTicker.Message.Control
import MarketTicker.Proofs.Json.Skipping
import MarketTicker.Proofs.Message.Envelope
import MarketTicker.Proofs.Message.Tick

namespace MarketTicker

open Json

namespace Control

variable {c : Control} {m : MemberText} {ms : List MemberText}

theorem restores_tokens (ts : List Token) : Restores readTokens writeTokens ts :=
  restores_listOf fun t _ => restores_word32 t

theorem reads_modeContent (mode : Mode) (ts : List Token) :
    Reads readModeContent (writeContent (.mode mode ts)) (.mode mode ts) := by
  intro rest _
  have hmode := mode.restores
  have htokens := restores_tokens ts
  have hsplit : writeContent (.mode mode ts) ++ rest =
      '[' :: (mode.writeJson ++ ',' :: (writeTokens ts ++ ']' :: rest)) := by
    simp [writeContent]
  rw [hsplit]
  refine Yields.onNext rfl ?_
  rw [if_pos rfl]
  refine (Yields.advance '[' _).bind ?_
  refine (yields_nextElement_first .none hmode.opens _).bind ?_
  refine (hmode.reads _ (stops_cons rfl _)).bind ?_
  refine (yields_nextElement_comma .none .none htokens.opens _).bind ?_
  refine (htokens.reads _ (stops_cons rfl _)).bind ?_
  exact (yields_endList .none rest).bind (.pure (Control.mode mode ts) rest)

theorem reads_content (c : Control) : Reads (readContent c.action) c.writeContent c := by
  cases c with
  | subscribe ts => exact (restores_tokens ts).reads.map Control.subscribe
  | unsubscribe ts => exact (restores_tokens ts).reads.map Control.unsubscribe
  | mode mode ts => exact reads_modeContent mode ts

theorem patient_readContent (action : Action) : Patient (readContent action) := by
  cases action with
  | subscribe => exact (patient_onNext _).bind _
  | unsubscribe => exact (patient_onNext _).bind _
  | mode => exact patient_onNext _

theorem buffers_tokens (arrange : Members → Members) (room : Nat) (ts : List Token) :
    ∃ v, Reads (Value.reader arrange (room + 1)) (writeTokens ts) v ∧ tokensOf v = .ok ts := by
  have hvalues : ∃ vs, List.Forall₂ (fun t v => Spelled v (writeWord32 t)) ts vs ∧
      vs.mapM word32Shape.pick = .ok ts := by
    induction ts with
    | nil => exact ⟨[], .nil, rfl⟩
    | cons t ts ih =>
      obtain ⟨vs, hvs, hpicks⟩ := ih
      obtain ⟨v, -, hv, hpick⟩ := (solid_word32 t).picks
      exact ⟨v :: vs, .cons hv hvs, by rw [List.mapM_cons, hpick, hpicks]; rfl⟩
  obtain ⟨vs, hvs, hpicks⟩ := hvalues
  refine ⟨.array vs, ?_, hpicks⟩
  intro rest hrest
  have hitems : Reads (items (Value.reader arrange room)) (writeTokens ts) vs := by
    rw [writeTokens, writeList_eq]
    refine reads_items .none ?_
    rw [List.forall₂_map_left_iff]
    exact hvs.imp fun t v hv => ⟨(restores_word32 t).opens, reader_plain arrange room hv⟩
  exact (Yields.ahead rfl _).bind ((hitems.map Value.array) rest hrest)

theorem buffers_content (c : Control) : ∃ v, Reads Value.written c.writeContent v ∧ contentOf c.action v = .ok c := by
  cases c with
  | subscribe ts =>
    obtain ⟨v, hread, hpick⟩ := buffers_tokens id 125 ts
    exact ⟨v, hread, by rw [action, contentOf, hpick]; rfl⟩
  | unsubscribe ts =>
    obtain ⟨v, hread, hpick⟩ := buffers_tokens id 125 ts
    exact ⟨v, hread, by rw [action, contentOf, hpick]; rfl⟩
  | mode mode ts =>
    obtain ⟨v, hread, hpick⟩ := buffers_tokens id 124 ts
    refine ⟨.array [.text mode.name, v], ?_, ?_⟩
    · intro rest hrest
      have hlist : writeContent (.mode mode ts) =
          listText .none [⟨.none, mode.writeJson, .none⟩, ⟨.none, writeTokens ts, .none⟩] := by
        simp [writeContent, listText, separated, ItemText.chars, Blanks.none]
      have hmode : ReadsItem (Value.reader id 125) ⟨.none, mode.writeJson, .none⟩ (.text mode.name) :=
        ⟨mode.restores.opens, reader_plain id 125 (.text mode.name)⟩
      have htokens : ReadsItem (Value.reader id 125) ⟨.none, writeTokens ts, .none⟩ v :=
        ⟨(restores_tokens ts).opens, hread⟩
      have hitems := (reads_items .none (.cons hmode (.cons htokens .nil))).map Value.array
      rw [hlist]
      exact (Yields.ahead rfl _).bind (hitems rest hrest)
    · have hmode : modeOf (.text mode.name) = .ok mode := by
        rw [modeOf, variant, Mode.ofName?_name]
      rw [action, contentOf, modeContentOf, hmode, hpick]
      rfl

def Foreign (m : MemberText) : Prop :=
  ∃ name, SpellsText m.key name ∧ name ≠ "a" ∧ name ≠ "v" ∧ IsValue m.value

/-- The members of a control message, its action and its content, with blanks wherever they may be. -/
structure Tells (c : Control) (a v : MemberText) : Prop where
  action_key : SpellsText a.key "a"
  action : SpellsText a.value c.action.name
  content_key : SpellsText v.key "v"
  content : v.value = c.writeContent

theorem Action.reads {action : Action} (h : SpellsText m.value action.name) :
    Reads Action.readJson (m.beforeValue.chars ++ m.value) action :=
  (patient_onNext _).reads (reads_choice h (Action.ofName?_name action)) m.beforeValue

theorem steps_foreign (h : ∀ m ∈ ms, Foreign m) (p : Progress) :
    ∃ named, named.map Prod.fst = ms ∧ Steps stepMember p named p := by
  induction ms with
  | nil => exact ⟨[], rfl, .nil⟩
  | cons m ms ih =>
    obtain ⟨⟨name, hkey, haction, hcontent, hvalue⟩, hms⟩ := List.forall_mem_cons.1 h
    obtain ⟨named, hnamed, hsteps⟩ := ih hms
    refine ⟨(m, name) :: named, by rw [List.map_cons, hnamed], .cons hkey ?_ hsteps⟩
    unfold stepMember
    rw [if_neg haction, if_neg hcontent]
    exact m.reads_tail ((reads_skipValue hvalue m.beforeValue).bind (.pure p))

namespace Tells

variable {a v : MemberText}

theorem steps_action (h : Tells c a v) : Reads (stepMember .nothing "a") a.tail (.action c.action) :=
  a.reads_tail ((Action.reads h.action).map Progress.action)

theorem steps_content (h : Tells c a v) : Reads (stepMember (.action c.action) "v") v.tail (.complete c) := by
  have hread := (patient_readContent c.action).reads (reads_content c) v.beforeValue
  rw [← h.content] at hread
  exact v.reads_tail (hread.map Progress.complete)

/-- Content that comes first is kept as a value, and its action makes the message of it. -/
theorem steps_buffered (h : Tells c a v) : ∃ w, Reads (stepMember .nothing "v") v.tail (.content w) ∧
    Reads (stepMember (.content w) "a") a.tail (.complete c) := by
  obtain ⟨w, hw, hpick⟩ := buffers_content c
  have hread := (patient_reader id Value.innerRoom).reads hw v.beforeValue
  rw [← h.content] at hread
  refine ⟨w, v.reads_tail (hread.map Progress.content), a.reads_tail ?_⟩
  intro rest hrest
  exact (Action.reads h.action rest hrest).bind ((Yields.lift hpick rest).map Progress.complete)

end Tells

theorem widened_pair {a v : MemberText} (h : Widened Foreign [a, v] ms) :
    ∃ xs ys zs, (∀ m ∈ xs ++ (ys ++ zs), Foreign m) ∧
      (ms = xs ++ a :: (ys ++ v :: zs) ∨ ms = xs ++ v :: (ys ++ a :: zs)) := by
  obtain ⟨extra, hextra, hperm⟩ := h
  have hswap : ([a, v] ++ extra).Perm (extra ++ [a, v]) := List.perm_append_comm
  have hav : (a :: v :: extra).Perm ms := hswap.trans hperm
  obtain ⟨xs, rest, rfl⟩ := List.append_of_mem (hav.subset List.mem_cons_self)
  have hv : (v :: extra).Perm (xs ++ rest) := (List.perm_cons a).1 (hav.trans List.perm_middle)
  have foreign {ns : List MemberText} (hn : extra.Perm ns) : ∀ m ∈ ns, Foreign m :=
    fun m hm => hextra m (hn.symm.subset hm)
  rcases List.mem_append.1 (hv.subset List.mem_cons_self) with hmem | hmem
  · obtain ⟨ws, ys, rfl⟩ := List.append_of_mem hmem
    refine ⟨ws, ys, rest, foreign ?_, .inr (by simp)⟩
    rw [List.append_assoc] at hv
    exact (List.perm_cons v).1 (hv.trans List.perm_middle)
  · obtain ⟨ys, zs, rfl⟩ := List.append_of_mem hmem
    refine ⟨xs, ys, zs, foreign ?_, .inl rfl⟩
    rw [← List.append_assoc] at hv
    rw [← List.append_assoc]
    exact (List.perm_cons v).1 (hv.trans List.perm_middle)

theorem Tells.reads {a v : MemberText} (h : Tells c a v) (inner : Blanks) (hwide : Widened Foreign [a, v] ms) :
    Reads readJson (objectText inner ms) c := by
  have finish (named : List (MemberText × String)) (hnamed : named.map Prod.fst = ms)
      (hsteps : Steps stepMember .nothing named (.complete c)) : Reads readJson (objectText inner ms) c := by
    intro rest hrest
    rw [← hnamed]
    refine Yields.onNext rfl ?_
    rw [if_pos rfl]
    exact (hsteps.reads inner rest hrest).bind (.lift rfl rest)
  obtain ⟨xs, ys, zs, hforeign, hms⟩ := widened_pair hwide
  simp only [List.forall_mem_append] at hforeign
  obtain ⟨hxs, hys, hzs⟩ := hforeign
  rcases hms with rfl | rfl
  · obtain ⟨xs', rfl, hx⟩ := steps_foreign hxs .nothing
    obtain ⟨ys', rfl, hy⟩ := steps_foreign hys (.action c.action)
    obtain ⟨zs', rfl, hz⟩ := steps_foreign hzs (.complete c)
    exact finish (xs' ++ (a, "a") :: (ys' ++ (v, "v") :: zs')) (by simp)
      (hx.append (.cons h.action_key h.steps_action (hy.append (.cons h.content_key h.steps_content hz))))
  · obtain ⟨w, hbuffer, hcomplete⟩ := h.steps_buffered
    obtain ⟨xs', rfl, hx⟩ := steps_foreign hxs .nothing
    obtain ⟨ys', rfl, hy⟩ := steps_foreign hys (.content w)
    obtain ⟨zs', rfl, hz⟩ := steps_foreign hzs (.complete c)
    exact finish (xs' ++ (v, "v") :: (ys' ++ (a, "a") :: zs')) (by simp)
      (hx.append (.cons h.content_key hbuffer (hy.append (.cons h.action_key hcomplete hz))))

theorem tells_written (c : Control) :
    Tells c (compact ("a", writeText c.action.name)) (compact ("v", c.writeContent)) where
  action_key := spellsText_writeText "a"
  action := spellsText_writeText c.action.name
  content_key := spellsText_writeText "v"
  content := rfl

theorem writeJson_eq (c : Control) : c.writeJson =
    objectText .none [compact ("a", writeText c.action.name), compact ("v", c.writeContent)] := by
  have ha : writeText "a" = ['"', 'a', '"'] := by decide
  have hv : writeText "v" = ['"', 'v', '"'] := by decide
  simp [writeJson, objectText, separated, chars_compact, ha, hv]

theorem readAll_writeJson (c : Control) : readAll readJson c.writeJson = .ok c := by
  rw [writeJson_eq]
  exact (c.tells_written.reads .none ⟨[], nofun, .refl _⟩).readAll

def listing (ts : List Token) : String :=
  "[" ++ ",".intercalate (ts.map fun t => t.toNat.repr) ++ "]"

def contentLayout : Control → String
  | .subscribe ts => listing ts
  | .unsubscribe ts => listing ts
  | .mode m ts => "[\"" ++ m.name ++ "\"," ++ listing ts ++ "]"

def layout (c : Control) : String :=
  "\x7b\"a\":\"" ++ c.action.name ++ "\",\"v\":" ++ c.contentLayout ++ "\x7d"

theorem ofList_tokens (ts : List Token) : String.ofList (writeTokens ts) = listing ts := by
  have hnumerals : (ts.map fun t => t.toNat.repr).map String.toList = ts.map writeWord32 := by
    rw [List.map_map]
    exact List.map_congr_left fun t _ => Text.toList_repr t.toNat
  apply String.toList_inj.1
  rw [String.toList_ofList, listing, String.toList_append, String.toList_append, String.toList_intercalate, hnumerals]
  rfl

theorem text_eq_layout (c : Control) : c.text = c.layout := by
  have hhead (action : Action) :
      String.ofList (['\x7b', '"', 'a', '"', ':'] ++ writeText action.name ++ [',', '"', 'v', '"', ':']) =
        "\x7b\"a\":\"" ++ action.name ++ "\",\"v\":" := by
    cases action with
    | _ => decide
  have hmode (mode : Mode) : String.ofList ('[' :: mode.writeJson ++ [',']) = "[\"" ++ mode.name ++ "\"," := by
    cases mode with
    | _ => decide
  have hcontent : String.ofList c.writeContent = c.contentLayout := by
    cases c with
    | subscribe ts => exact ofList_tokens ts
    | unsubscribe ts => exact ofList_tokens ts
    | mode m ts =>
      have hsplit : writeContent (.mode m ts) = ('[' :: m.writeJson ++ [',']) ++ writeTokens ts ++ [']'] := by
        simp [writeContent]
      rw [hsplit, String.ofList_append, String.ofList_append, hmode, ofList_tokens]
      rfl
  rw [text, writeJson, layout, String.ofList_append, String.ofList_append, hcontent, hhead]

/-- A control message is laid out in one way and read back from it, also with its members in the other order and
with strange ones among them; so no two messages have the same text. -/
theorem json_faithful (c : Control) :
    readAll readJson c.text.toList = .ok c ∧
      (∀ (a v : MemberText) (inner : Blanks) (ms : List MemberText), Tells c a v → Widened Foreign [a, v] ms →
        readAll readJson (objectText inner ms) = .ok c) ∧
      (∀ d : Control, d.text = c.text → d = c) ∧ c.text = c.layout := by
  have hread (c : Control) : readAll readJson c.text.toList = .ok c := by
    rw [text, String.toList_ofList, readAll_writeJson]
  refine ⟨hread c, fun a v inner ms h hwide => (h.reads inner hwide).readAll, fun d hd => ?_, c.text_eq_layout⟩
  have hsame := hread d
  rw [hd, hread c] at hsame
  exact (Except.ok.inj hsame).symm

/-- The content first, with a blank before its colon, and a strange member before the action. -/
theorem json_faithful_of_swapped :
    ∃ a v m : MemberText, Tells (.mode .full [7, 7]) a v ∧ Widened Foreign [a, v] [v, m, a] ∧
      String.ofList (objectText .none [v, m, a]) = "\x7b\"v\" :[\"full\",[7,7]],\"id\":null,\"a\":\"mode\"\x7d" ∧
      readAll readJson (objectText .none [v, m, a]) = .ok (.mode .full [7, 7]) := by
  have htells : Tells (.mode .full [7, 7]) (compact ("a", writeText "mode"))
      ⟨.none, writeText "v", ⟨[' '], List.forall_mem_singleton.2 rfl⟩, .none, writeContent (.mode .full [7, 7]), .none⟩ :=
    ⟨spellsText_writeText "a", spellsText_writeText "mode", spellsText_writeText "v", rfl⟩
  have hforeign : Foreign (compact ("id", ['n', 'u', 'l', 'l'])) :=
    ⟨"id", spellsText_writeText "id", by decide, by decide, .null⟩
  have hwide {a v m : MemberText} (hm : Foreign m) : Widened Foreign [a, v] [v, m, a] := by
    have hswap : ([m, a] ++ [v]).Perm ([v] ++ [m, a]) := List.perm_append_comm
    exact ⟨[m], List.forall_mem_singleton.2 hm, hswap⟩
  have hseven : writeWord32 7 = ['7'] := by
    rw [writeWord32, Text.numeral]
    rfl
  have hcontent : writeContent (.mode .full [7, 7]) = "[\"full\",[7,7]]".toList := by
    rw [writeContent, writeTokens, writeList, List.map_cons, List.map_cons, hseven]
    rfl
  exact ⟨_, _, _, htells, hwide hforeign, by rw [hcontent]; rfl,
    (json_faithful (.mode .full [7, 7])).2.1 _ _ .none _ htells (hwide hforeign)⟩

end Control

end MarketTicker
