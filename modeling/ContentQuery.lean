import ContentQuery.Main
import ContentQuery.Proofs.Accepted
import ContentQuery.Proofs.Boundaries
import ContentQuery.Proofs.Calls
import ContentQuery.Proofs.Carets
import ContentQuery.Proofs.Checking
import ContentQuery.Proofs.Correspondence
import ContentQuery.Proofs.Decoding
import ContentQuery.Proofs.Escapes
import ContentQuery.Proofs.Exchange
import ContentQuery.Proofs.Expectations
import ContentQuery.Proofs.Heads
import ContentQuery.Proofs.Joining
import ContentQuery.Proofs.JsonLayout
import ContentQuery.Proofs.LetterCase
import ContentQuery.Proofs.ListItems
import ContentQuery.Proofs.Lookahead
import ContentQuery.Proofs.Nesting
import ContentQuery.Proofs.Occurrences
import ContentQuery.Proofs.Outlines
import ContentQuery.Proofs.Padding
import ContentQuery.Proofs.Quoting
import ContentQuery.Proofs.Turns
import ContentQuery.Proofs.Unclosed
import ContentQuery.Proofs.Validation
import ContentQuery.Term.Stack
