import SqlClient.Column
import SqlClient.Proofs.Codec.RoundTrip
import SqlClient.Proofs.Text.Utf8

namespace SqlClient.Column

open Decoder

def encode (catalog : Bytes) (column : Column) : Bytes :=
  Encoder.lenencBytes catalog ++ (Encoder.lenencString column.schema ++
    (Encoder.lenencString column.table ++ (Encoder.lenencString column.orgTable ++
      (Encoder.lenencString column.name ++ (Encoder.lenencString column.orgName ++
        (Encoder.lenencInt 0x0C ++ (Encoder.uint16 column.charset ++
          (Encoder.uint32 column.columnLength ++ (Encoder.byte column.typeCode ++
            (Encoder.uint16 column.flagBits ++ (Encoder.byte column.decimals ++
              Encoder.uint16 column.reserved)))))))))))

structure Storable (column : Column) : Prop where
  schema : (Utf8.encode column.schema).length < UInt64.size
  table : (Utf8.encode column.table).length < UInt64.size
  orgTable : (Utf8.encode column.orgTable).length < UInt64.size
  name : (Utf8.encode column.name).length < UInt64.size
  orgName : (Utf8.encode column.orgName).length < UInt64.size

theorem readsExactly_encode {catalog : Bytes} (hcatalog : catalog.length < UInt64.size)
    {column : Column} (h : column.Storable) :
    decoder.ReadsExactly (encode catalog column) column := by
  unfold decoder encode
  apply (readsExactly_lenencBytes hcatalog).bind
  apply (readsExactly_lenencString h.schema).bind
  apply (readsExactly_lenencString h.table).bind
  apply (readsExactly_lenencString h.orgTable).bind
  apply (readsExactly_lenencString h.name).bind
  apply (readsExactly_lenencString h.orgName).bind
  apply (readsExactly_lenencInt 0x0C).bind
  apply (readsExactly_uint16 column.charset).bind
  apply (readsExactly_uint32 column.columnLength).bind
  apply (readsExactly_byte column.typeCode).bind
  apply (readsExactly_uint16 column.flagBits).bind
  apply (readsExactly_byte column.decimals).bind
  simp only [Utf8.decodeLossy_encode]
  exact (readsExactly_uint16 column.reserved).bind_pure _

theorem decode_encode_append {catalog : Bytes} (hcatalog : catalog.length < UInt64.size)
    {column : Column} (h : column.Storable) (trailing : Bytes) :
    decode (encode catalog column ++ trailing) = .ok column :=
  decode_of_ok ((readsExactly_encode hcatalog h).ok trailing)

theorem decode_encode {catalog : Bytes} (hcatalog : catalog.length < UInt64.size) {column : Column}
    (h : column.Storable) : decode (encode catalog column) = .ok column := by
  rw [← List.append_nil (encode catalog column)]
  exact decode_encode_append hcatalog h []

/-- Every bit of the flag word has a name. -/
theorem bits_flags (column : Column) : column.flags.bits = column.flagBits.toNat := by
  have hmask : FlagSet.mask columnFlags = 2 ^ 16 - 1 := by decide
  have hlt : column.flagBits.toNat < 2 ^ 16 := column.flagBits.toNat_lt
  rw [flags, FlagSet.ofBits, hmask, Nat.and_two_pow_sub_one_eq_mod, Nat.mod_eq_of_lt hlt]

/-- Every field of a definition comes out in its own place, whatever follows the fixed ones; a
definition that breaks off is noticed, wherever it does. -/
theorem read_back_whole {catalog : Bytes} (hcatalog : catalog.length < UInt64.size)
    {column : Column} (h : column.Storable) :
    (∀ trailing, decode (encode catalog column ++ trailing) = .ok column) ∧
      column.flags.bits = column.flagBits.toNat ∧
      ∀ cut, cut <+: encode catalog column → cut ≠ encode catalog column →
        decode cut = .error .unexpectedEof := by
  refine ⟨decode_encode_append hcatalog h, bits_flags column, ?_⟩
  intro cut hcut hne
  rw [decode, Decoder.decode, (readsExactly_encode hcatalog h).needs hcut hne]
  rfl

def renamed : Column where
  schema := "zoo"
  table := "d"
  orgTable := "dogs"
  name := "größe"
  orgName := "size"
  charset := 0x21
  columnLength := 0x01020304
  typeCode := 0x42
  flagBits := 0x8003
  decimals := 31
  reserved := 0x0605

theorem renamed_read_back :
    [0xFF].length < UInt64.size ∧ renamed.Storable ∧
      decode [1, 0xFF, 3, 0x7A, 0x6F, 0x6F, 1, 0x64, 4, 0x64, 0x6F, 0x67, 0x73,
          7, 0x67, 0x72, 0xC3, 0xB6, 0xC3, 0x9F, 0x65, 4, 0x73, 0x69, 0x7A, 0x65,
          0x0C, 0x21, 0, 4, 3, 2, 1, 0x42, 3, 0x80, 31, 5, 6, 0xAA, 0xBB] = .ok renamed ∧
      renamed.flags.bits = 0x8003 ∧
      decode [1, 0xFF, 3, 0x7A, 0x6F, 0x6F, 1, 0x64, 4, 0x64, 0x6F] = .error .unexpectedEof := by
  have hcatalog : [(0xFF : UInt8)].length < UInt64.size := by decide
  have hstorable : renamed.Storable := by constructor <;> decide
  obtain ⟨hdecode, hflags, hcut⟩ := read_back_whole hcatalog hstorable
  exact ⟨hcatalog, hstorable, hdecode [0xAA, 0xBB], hflags, hcut _ (by decide) (by decide)⟩

end SqlClient.Column
