import Sandwich.Command.Run
import Sandwich.Proofs.Command.Job
import Sandwich.Proofs.Hex
import Sandwich.Proofs.Swap

/-! Payloads on the command line. A payload with its usual opcode is packed unless one
of its amounts is refused, and is printed as hexadecimal text. Whoever hands this text
back, as an argument or in a file, in either case and with blanks around it, gets the
same bytes, and in them what the payload was made of. -/

namespace Sandwich

namespace Command

open Program

/-! ### Reading the text -/

/-- The text is handed over as the argument, in the file or on the standard input. -/
inductive Handed (files : Files) (text : List Char) : Option String → Option String → Prop
  | argument (file : Option String) : Handed files text (some (String.ofList text)) file
  | file {name : String} (hname : name ≠ "-") (h : files.read name = .ok (Hex.utf8 text)) :
      Handed files text none (some name)
  | standardInput (h : files.standardInput = Hex.utf8 text) : Handed files text none (some "-")

variable {files : Files} {text : List Char} {argument file : Option String} {bytes : Bytes}

theorem decodeHex_of_spells (h : Hex.Spells bytes text) : decodeHex text = .ok bytes := by
  obtain ⟨x, rest, htrim, hmark, hrest⟩ := h.exists_trim
  have hunmarked : unmarked ('0' :: x :: rest) = rest := by
    obtain rfl | rfl := hmark <;> rfl
  simp only [decodeHex, htrim, hunmarked, Hex.length_utf8 hrest, Hex.decode_of_map_toLower hrest]
  rw [if_neg (by omega)]
  rfl

theorem text_of_read {name : String} (hname : name ≠ "-")
    (h : files.read name = .ok (Hex.utf8 text)) : files.text name = .ok text := by
  rw [Files.text, if_neg hname, h]
  refine Except.bind_eq_ok_iff.mpr ⟨Hex.utf8 text, rfl, ?_⟩
  simp only [Text.decodeUtf8?_utf8]
  rfl

theorem text_of_standardInput (h : files.standardInput = Hex.utf8 text) :
    files.text "-" = .ok text := by
  rw [Files.text, if_pos rfl, h]
  refine Except.bind_eq_ok_iff.mpr ⟨Hex.utf8 text, rfl, ?_⟩
  simp only [Text.decodeUtf8?_utf8]
  rfl

theorem loadHex_of_text {name : String} (htext : files.text name = .ok text)
    (hdecode : decodeHex text = .ok bytes) : loadHex files none (some name) = .ok (some bytes) := by
  refine Except.bind_eq_ok_iff.mpr ⟨text, ?_, ?_⟩
  · rw [htext]
    rfl
  · rw [hdecode]
    rfl

/-- However the text is handed over, its bytes are loaded. -/
theorem loadHex_of_handed (hspells : Hex.Spells bytes text) (h : Handed files text argument file) :
    loadHex files argument file = .ok (some bytes) := by
  have hdecode := decodeHex_of_spells hspells
  cases h with
  | argument file =>
    rw [loadHex, String.toList_ofList, hdecode]
    rfl
  | file hname hread => exact loadHex_of_text (text_of_read hname hread) hdecode
  | standardInput hinput => exact loadHex_of_text (text_of_standardInput hinput) hdecode

/-! ### Packing the payload -/

namespace PayloadOptions

def UsualOpcode : PayloadOptions → Prop
  | frontrun _ opcode => opcode = Opcode.frontrun
  | recover _ opcode => opcode = Opcode.recover
  | destroy opcode => opcode = Opcode.destroy
  | v2Frontrun _ _ | v2Backrun _ _ | v3Frontrun _ _ | v3Backrun _ _ => True

def amounts : PayloadOptions → List String
  | frontrun _ _ | destroy _ => []
  | recover text _ => [text]
  | v2Frontrun s text | v2Backrun s text => [s.amountIn, text]
  | v3Frontrun s _ | v3Backrun s _ => [s.amountIn]

/-- What the payload tells, once its amounts have been read. -/
inductive Tells (hash : Bytes → Word) : PayloadOptions → Payload → Prop
  | frontrun {f : Frontrun} {opcode : UInt8} : Tells hash (frontrun f opcode)
      ⟨"frontrun", 11, [("target", .address f.target),
        ("sub_op", .uint (BitVec.ofNat 256 f.subOp.toNat)),
        ("param1", .uint (BitVec.ofNat 256 f.param1.toNat)),
        ("sub_op2", .uint (BitVec.ofNat 256 f.subOp2.toNat)),
        ("param2", .uint (BitVec.ofNat 256 f.param2.toNat))]⟩
  | recover {text : String} {opcode : UInt8} {n : UInt256} (h : amount text = .ok n) :
      Tells hash (recover text opcode) ⟨"recover", 66, [("amount", .uint n)]⟩
  | destroy {opcode : UInt8} : Tells hash (destroy opcode) ⟨"destroy", 42, []⟩
  | v2Frontrun {s : SwapOptions} {text : String} {n m : UInt256} {p : Payload}
      (hin : amount s.amountIn = .ok n) (hout : amount text = .ok m)
      (h : (Swap.v2Frontrun s.pool s.wrapped s.token n m).Tells p) :
      Tells hash (v2Frontrun s text) p
  | v2Backrun {s : SwapOptions} {text : String} {n m : UInt256} {p : Payload}
      (hin : amount s.amountIn = .ok n) (hout : amount text = .ok m)
      (h : (Swap.v2Backrun s.pool s.wrapped s.token n m).Tells p) :
      Tells hash (v2Backrun s text) p
  | v3Frontrun {s : SwapOptions} {fee : UInt32} {n : UInt256} {p : Payload}
      (hin : amount s.amountIn = .ok n)
      (h : (Swap.v3Frontrun s.pool (s.poolKey hash fee) s.wrapped s.token n).Tells p) :
      Tells hash (v3Frontrun s fee) p
  | v3Backrun {s : SwapOptions} {fee : UInt32} {n : UInt256} {p : Payload}
      (hin : amount s.amountIn = .ok n)
      (h : (Swap.v3Backrun s.pool (s.poolKey hash fee) s.wrapped s.token n).Tells p) :
      Tells hash (v3Backrun s fee) p

/-- The payload is packed, and its bytes are read back as what it was made of. -/
def Packs (hash : Bytes → Word) (o : PayloadOptions) : Prop :=
  ∃ bytes p, o.encode hash = .ok bytes ∧ Payload.decode bytes = .ok p ∧ o.Tells hash p

def Refused (hash : Bytes → Word) (o : PayloadOptions) : Prop :=
  ∃ e text, o.encode hash = .error e ∧ text ∈ o.amounts ∧ amount text = .error e

variable (hash : Bytes → Word)

theorem packs_frontrun (f : Frontrun) : (frontrun f Opcode.frontrun).Packs hash := by
  obtain ⟨data, hdata, hdecode⟩ := Layout.exists_payload (l := .frontrun) (by decide)
    (.cons (Field.holds_address "target" f.target) (.cons (Field.holds_uint8 "sub_op" f.subOp)
      (.cons (Field.holds_uint32 "param1" f.param1) (.cons (Field.holds_uint8 "sub_op2" f.subOp2)
        (.cons (Field.holds_uint32 "param2" f.param2) .nil)))))
  exact ⟨data, _, Except.mapError_eq_ok_iff.mpr hdata, hdecode, .frontrun⟩

theorem packs_recover {text : String} {n : UInt256} (h : amount text = .ok n) :
    (recover text Opcode.recover).Packs hash := by
  obtain ⟨data, hdata, hdecode⟩ := Layout.exists_payload (l := .recover) (by decide)
    (.cons (Field.holds_uint256 "amount" n) .nil)
  refine ⟨data, _, ?_, hdecode, .recover h⟩
  exact Except.bind_eq_ok_iff.mpr ⟨n, h, Except.mapError_eq_ok_iff.mpr hdata⟩

theorem packs_destroy : (destroy Opcode.destroy).Packs hash :=
  ⟨[Opcode.destroy], _, rfl, rfl, .destroy⟩

variable {hash}

/-- An amount is refused, and the payload with it, or the payload is packed with its value. -/
theorem packs_or_refused_of_amount {o : PayloadOptions} {text : String} (hmem : text ∈ o.amounts)
    (hencode : ∀ e, amount text = .error e → o.encode hash = .error e)
    (hread : ∀ n, amount text = .ok n → o.Packs hash ∨ o.Refused hash) :
    o.Packs hash ∨ o.Refused hash := by
  cases h : amount text with
  | error e => exact .inr ⟨e, text, hencode e h, hmem, h⟩
  | ok n => exact hread n h

theorem packs_of_swap {o : PayloadOptions} (s : Swap)
    (hencode : o.encode hash = s.pack.mapError .payload)
    (htells : ∀ p, s.Tells p → o.Tells hash p) : o.Packs hash := by
  obtain ⟨data, p, hdata, hdecode, hp⟩ := s.exists_tells
  exact ⟨data, p, hencode.trans (Except.mapError_eq_ok_iff.mpr hdata), hdecode, htells p hp⟩

theorem packs_or_refused_v3 {o : PayloadOptions} {text : String} (swap : UInt256 → Swap)
    (hamounts : o.amounts = [text])
    (hencode : o.encode hash = do
      let n ← amount text
      (swap n).pack.mapError .payload)
    (htells : ∀ n p, amount text = .ok n → (swap n).Tells p → o.Tells hash p) :
    o.Packs hash ∨ o.Refused hash := by
  refine packs_or_refused_of_amount (hamounts ▸ List.mem_cons_self) (fun e he => ?_) fun n hn => ?_
  · rw [hencode, he]
    rfl
  · refine .inl (packs_of_swap (swap n) ?_ fun p => htells n p hn)
    rw [hencode, hn]
    rfl

/-- A swap of two amounts, of which the one that goes in is read first. -/
theorem packs_or_refused_v2 {o : PayloadOptions} {textIn textOut : String}
    (swap : UInt256 → UInt256 → Swap) (hamounts : o.amounts = [textIn, textOut])
    (hencode : o.encode hash = do
      let n ← amount textIn
      let m ← amount textOut
      (swap n m).pack.mapError .payload)
    (htells : ∀ n m p, amount textIn = .ok n → amount textOut = .ok m → (swap n m).Tells p →
      o.Tells hash p) :
    o.Packs hash ∨ o.Refused hash := by
  refine packs_or_refused_of_amount (hamounts ▸ List.mem_cons_self) (fun e he => ?_) fun n hn => ?_
  · rw [hencode, he]
    rfl
  have hmem : textOut ∈ o.amounts := hamounts ▸ List.mem_cons_of_mem _ List.mem_cons_self
  refine packs_or_refused_of_amount hmem (fun e he => ?_) fun m hm => ?_
  · rw [hencode, hn, he]
    rfl
  · refine .inl (packs_of_swap (swap n m) ?_ fun p => htells n m p hn hm)
    rw [hencode, hn, hm]
    rfl

/-- A payload with its usual opcode is packed unless an amount is refused. -/
theorem packs_or_refused {o : PayloadOptions} (h : o.UsualOpcode) :
    o.Packs hash ∨ o.Refused hash := by
  cases o with
  | frontrun f opcode =>
    obtain rfl : opcode = Opcode.frontrun := h
    exact .inl (packs_frontrun hash f)
  | recover text opcode =>
    obtain rfl : opcode = Opcode.recover := h
    refine packs_or_refused_of_amount List.mem_cons_self (fun e he => ?_) fun n hn => ?_
    · rw [encode, he]
      rfl
    · exact .inl (packs_recover hash hn)
  | destroy opcode =>
    obtain rfl : opcode = Opcode.destroy := h
    exact .inl (packs_destroy hash)
  | v2Frontrun s text =>
    exact packs_or_refused_v2 (.v2Frontrun s.pool s.wrapped s.token) rfl rfl
      fun _ _ _ => .v2Frontrun
  | v2Backrun s text =>
    exact packs_or_refused_v2 (.v2Backrun s.pool s.wrapped s.token) rfl rfl
      fun _ _ _ => .v2Backrun
  | v3Frontrun s fee =>
    exact packs_or_refused_v3 (.v3Frontrun s.pool (s.poolKey hash fee) s.wrapped s.token) rfl rfl
      fun _ _ => .v3Frontrun
  | v3Backrun s fee =>
    exact packs_or_refused_v3 (.v3Backrun s.pool (s.poolKey hash fee) s.wrapped s.token) rfl rfl
      fun _ _ => .v3Backrun

end PayloadOptions

/-! ### Packed, printed and handed back -/

theorem silent_encode (env : Environment) (o : PayloadOptions) :
    Silent (run env (.encode o)).run
      ((o.encode env.hash).map fun bytes => Hex.encode bytes ++ "\n") :=
  silent_ofExcept_map _ _

theorem silent_decode (env : Environment) (argument file : Option String) :
    Silent (run env (.decode argument file)).run
      ((loadPayload env.files argument file).map fun p => p.describe ++ "\n") :=
  silent_ofExcept_map _ _

theorem loadPayload_of_loadHex {p : Payload}
    (hload : loadHex files argument file = .ok (some bytes))
    (hdecode : Payload.decode bytes = .ok p) : loadPayload files argument file = .ok p := by
  refine Except.bind_eq_ok_iff.mpr ⟨some bytes, hload, ?_⟩
  cases bytes with
  | nil => cases hdecode
  | cons b bs => exact Except.mapError_eq_ok_iff.mpr hdecode

/-- A payload with its usual opcode is refused only for one of its amounts. If it is not, the line
that is printed spells its bytes; and every text that spells them, however it is handed back, is
loaded as just these bytes and is told to be what the payload was made of. -/
theorem decode_of_encode_line (env : Environment) (o : PayloadOptions) (h : o.UsualOpcode)
    {σ : Type} (surroundings : (inquiry : Inquiry) → σ → inquiry.Reply × σ) (start : σ) :
    match ((run env (.encode o)).run.run surroundings start).result with
    | .error e => ∃ text ∈ o.amounts, amount text = .error e
    | .ok printed => ∃ bytes p, o.encode env.hash = .ok bytes ∧
        printed = Hex.encode bytes ++ "\n" ∧ Hex.Spells bytes printed.toList ∧
        Payload.decode bytes = .ok p ∧ o.Tells env.hash p ∧
        ∀ (files : Files) (text : List Char) (argument file : Option String),
          Hex.Spells bytes text → Handed files text argument file →
          loadHex files argument file = .ok (some bytes) ∧
            ((run { env with files } (.decode argument file)).run.run surroundings start).result =
              .ok (p.describe ++ "\n") := by
  have hpacks : o.Packs env.hash ∨ o.Refused env.hash := PayloadOptions.packs_or_refused h
  obtain ⟨-, hprinted, -⟩ := (silent_encode env o).run surroundings start
  obtain ⟨bytes, p, hencode, hdecode, htells⟩ | ⟨e, text, hencode, hmem, hamount⟩ := hpacks
  · rw [hprinted, hencode]
    refine ⟨bytes, p, rfl, rfl, Hex.spells_line bytes, hdecode, htells, ?_⟩
    intro files text argument file hspells hhanded
    have hload := loadHex_of_handed hspells hhanded
    obtain ⟨-, htold, -⟩ := (silent_decode { env with files } argument file).run surroundings start
    refine ⟨hload, htold.trans ?_⟩
    rw [loadPayload_of_loadHex hload hdecode]
    rfl
  · rw [hprinted, hencode]
    exact ⟨text, hmem, hamount⟩

/-- A back-run, of which the line is kept in a file and read from there. -/
theorem decode_of_encode_line_backrun :
    let swap : SwapOptions := {
      pool := .ofNat 20 0xb4e16d, token := .ofNat 20 0xdac17f, amountIn := "1.5ether" }
    let o : PayloadOptions := .v2Backrun swap " 20000gwei"
    o.UsualOpcode ∧ ∀ surroundings : (inquiry : Inquiry) → Unit → inquiry.Reply × Unit,
      ∃ printed p, ((run bare (.encode o)).run.run surroundings ()).result = .ok printed ∧
        o.Tells bare.hash p ∧
        let files : Files := { read := fun _ => .ok (Hex.utf8 printed.toList), standardInput := [] }
        ((run { bare with files } (.decode none (some "line"))).run.run surroundings ()).result =
          .ok (p.describe ++ "\n") := by
  intro swap o
  refine ⟨trivial, fun surroundings => ?_⟩
  have h := decode_of_encode_line bare o trivial surroundings ()
  cases hresult : ((run bare (.encode o)).run.run surroundings ()).result with
  | error e =>
    rw [hresult] at h
    obtain ⟨text, hmem, hrefused⟩ := h
    have hin : amount "1.5ether" = .ok 1500000000000000000 := rfl
    have hout : amount " 20000gwei" = .ok 20000000000000 := rfl
    obtain rfl | rfl : text = "1.5ether" ∨ text = " 20000gwei" := by
      simpa [o, swap, PayloadOptions.amounts] using hmem
    · cases hin.symm.trans hrefused
    · cases hout.symm.trans hrefused
  | ok printed =>
    rw [hresult] at h
    obtain ⟨bytes, p, -, -, hspells, -, htells, hread⟩ := h
    refine ⟨printed, p, rfl, htells, ?_⟩
    intro files
    have hhanded : Handed files printed.toList none (some "line") := .file (by decide) rfl
    exact (hread files _ _ _ hspells hhanded).2

end Command

end Sandwich
