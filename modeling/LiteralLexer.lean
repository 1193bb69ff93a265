import LiteralLexer.Decode
import LiteralLexer.Session
import LiteralLexer.Proofs.Place
import LiteralLexer.Proofs.Bounds
import LiteralLexer.Proofs.SideChannel
import LiteralLexer.Proofs.Progress
import LiteralLexer.Proofs.BodyGrammar
import LiteralLexer.Proofs.Decoding
import LiteralLexer.Proofs.Replay
import LiteralLexer.Proofs.SafeSession
import LiteralLexer.Proofs.Lockstep
import LiteralLexer.Proofs.Context
import LiteralLexer.Proofs.LineEndDecoding
import LiteralLexer.Proofs.LiteralRun
import LiteralLexer.Proofs.EarlyTrivia
import LiteralLexer.Proofs.BodyUnits
import LiteralLexer.Proofs.RawTextClose
import LiteralLexer.Proofs.CommentDepth
import LiteralLexer.Proofs.TriviaRun
import LiteralLexer.Proofs.RawTextRender
import LiteralLexer.Proofs.FirstFault
import LiteralLexer.Proofs.SingleUnit
import LiteralLexer.Proofs.KeywordRun
import LiteralLexer.Proofs.RenderedLines
import LiteralLexer.Proofs.JsonReader
import LiteralLexer.Proofs.JsonRoundTrip
import LiteralLexer.Proofs.LinePlaces
import LiteralLexer.Proofs.BracedEscape
import LiteralLexer.Proofs.ExpectedTokens
import LiteralLexer.Proofs.ClippedLines
