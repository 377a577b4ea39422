import BookFeed.Feed.Request
import BookFeed.Proofs.Json.Written

set_option autoImplicit false

/-!
# Requests on the wire

A request is written as an object of a word, a list of streams and, once it has one, a number.
Whatever characters its streams are made of, the text has none that a line or a frame could
break at, and the request that is read from it is the one that was written, so that different
requests have different texts.

## Main definitions

* `BookFeed.Feed.Request.Sized` — requests whose number has at most 64 bits.

## Main results

* `BookFeed.Feed.Request.read_value` — a written request is read as itself.
* `BookFeed.Feed.Request.survives_wire` — requests are read back, told apart and free of
  control characters.
-/

namespace BookFeed.Feed

open Json

theorem Method.read_ofString (m : Method) : Method.read (Value.ofString m.name).node = .ok m := by
  cases m <;>
    simp [Value.ofString, Value.node, Method.read, Quoted.text_ofText, bind, Except.bind,
      Method.ofText, Method.ofName?, Method.name]

namespace Request

theorem sound : Request.record.Sound where
  nodup := by decide
  commutes := by simp [Request.record, Member.commutes_of]

/-- Whether the number of a request has at most 64 bits. -/
def Sized (r : Request) : Prop := ∀ id ∈ r.id, id < 18446744073709551616

theorem read_value {r : Request} (h : r.Sized) : Request.read r.value.node = .ok r := by
  obtain ⟨method, params, id⟩ := r
  have hparams : Reader.list Reader.string (Value.array (params.map .ofString)).node = .ok params :=
    Reader.list_node Reader.string_ofString params
  cases id with
  | none =>
    have hnames : ["method", "params"].Sublist (record.fields.map Member.name) := by decide
    refine Record.read_object_of_sublist sound hnames ?_ ?_
    · simp [Value.entries, record, Member.given, Member.answersTo, Member.demanded, Member.of,
        Member.Takes, Method.read_ofString, hparams, Except.map]
    · simp [Record.filled, Value.entries, record, Member.given, Member.answersTo, Member.demanded,
        Member.of, Member.fill, Method.read_ofString, hparams, Except.map]
  | some id =>
    have hid : Reader.optional Reader.natural (Value.integer id).node = .ok (some id) :=
      congrArg (Except.map some) (Reader.natural_node (h id rfl))
    refine Record.read_object_of_sublist sound (.refl _) ?_ ?_
    · simp [Value.entries, record, Member.given, Member.answersTo, Member.demanded, Member.of,
        Member.Takes, Method.read_ofString, hparams, hid, Except.map]
    · simp [Record.filled, Value.entries, record, Member.given, Member.answersTo, Member.demanded,
        Member.of, Member.fill, Method.read_ofString, hparams, hid, Except.map]

theorem run_encode {r : Request} (h : r.Sized) : Reader.run Request.read r.encode = .ok r := by
  rw [encode, Reader.run_toText, read_value h]

/-- **Requests survive the wire.** The text of a request is read as the request itself, no other
request has the same text, and no character of the text is below the space.

**Proof sketch.** The text is one of the spellings of an object with the members of the request,
so reading finds these members (`read_value`). A text that is read as two requests is read as
one. -/
theorem survives_wire {r : Request} (h : r.Sized) :
    Reader.run Request.read r.encode = .ok r ∧
      (∀ r' : Request, r'.Sized → r'.encode = r.encode → r' = r) ∧
      ∀ c ∈ r.encode.toList, 0x20 ≤ c.toNat := by
  refine ⟨run_encode h, fun r' h' heq => ?_, ?_⟩
  · have hread := run_encode h'
    rw [heq, run_encode h] at hread
    exact (Except.ok.inj hread).symm
  · rw [encode, Value.toText, String.toList_ofList]
    exact r.value.visible_text

/-- A stream of a quote, a backslash, a line break, a control character and a letter beyond
ASCII, under the last number of 64 bits. -/
private def oddRequest : Request := ⟨.unsubscribe, ["\"\\\n\x01é"], some 18446744073709551615⟩

theorem survives_wire_odd :
    oddRequest.Sized ∧
      oddRequest.encode = "\x7b\"method\":\"UNSUBSCRIBE\",\"params\":[\"\\\"\\\\\\n\\u0001é\"]," ++
        "\"id\":18446744073709551615\x7d" ∧
      Reader.run Request.read oddRequest.encode = .ok oddRequest ∧
      (∀ r : Request, r.Sized → r.encode = oddRequest.encode → r = oddRequest) ∧
      ∀ c ∈ oddRequest.encode.toList, 0x20 ≤ c.toNat := by
  have hsized : oddRequest.Sized := by
    rintro id ⟨⟩
    decide
  exact ⟨hsized, by decide +kernel, survives_wire hsized⟩

end Request

end BookFeed.Feed
