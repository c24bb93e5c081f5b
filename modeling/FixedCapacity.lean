import FixedCapacity.Text.Utf8
import FixedCapacity.Text.Blank
import FixedCapacity.Text.Decimal
import FixedCapacity.Text.Hex
import FixedCapacity.Text.Quoted
import FixedCapacity.Text.Listing
import FixedCapacity.Text.Property
import FixedCapacity.Text.CaseFold
import FixedCapacity.Error.Text
import FixedCapacity.Error.Status
import FixedCapacity.Error.Path
import FixedCapacity.Limits
import FixedCapacity.Bounds
import FixedCapacity.SlotArray.Create
import FixedCapacity.SlotArray.Remove
import FixedCapacity.SlotArray.Sort
import FixedCapacity.SlotArray.Text
import FixedCapacity.ByteString.Create
import FixedCapacity.ByteString.Format
import FixedCapacity.ByteString.Number
import FixedCapacity.ByteString.Hex
import FixedCapacity.ByteString.Split
import FixedCapacity.ByteString.Search
import FixedCapacity.Region.View
import FixedCapacity.Variant.Sets
import FixedCapacity.Pattern.Match
import FixedCapacity.Proofs.ByteString.AsArray
import FixedCapacity.Proofs.Atomic
import FixedCapacity.Proofs.ByteString.Hex
import FixedCapacity.Proofs.ByteString.Number
import FixedCapacity.Proofs.Region.StringView
import FixedCapacity.Proofs.Contained
import FixedCapacity.Proofs.Error.Provenance
import FixedCapacity.Proofs.Truthful
import FixedCapacity.Proofs.Overflow
import FixedCapacity.Proofs.ByteString.Split
import FixedCapacity.Proofs.Stable
import FixedCapacity.Proofs.Splice
import FixedCapacity.Proofs.ByteString.Display
import FixedCapacity.Proofs.Text.Literal
import FixedCapacity.Proofs.ByteString.Parse
import FixedCapacity.Proofs.ByteString.Fragments
import FixedCapacity.Proofs.Removal
import FixedCapacity.Proofs.Ranges
import FixedCapacity.Proofs.Neighbours
import FixedCapacity.Proofs.ByteString.Decoding
import FixedCapacity.Proofs.Error.Sides
import FixedCapacity.Proofs.Error.Conversion
import FixedCapacity.Proofs.Error.Path
import FixedCapacity.Proofs.Viewed
