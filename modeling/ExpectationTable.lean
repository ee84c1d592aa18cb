import ExpectationTable.Main
import ExpectationTable.Session
import ExpectationTable.Proofs.Expectation.Pattern
import ExpectationTable.Proofs.Converter.Reliable
import ExpectationTable.Proofs.Session.Resuming
import ExpectationTable.Proofs.Session.Contents
import ExpectationTable.Proofs.Converter.Counting
import ExpectationTable.Proofs.Converter.Chunking
import ExpectationTable.Proofs.Converter.LineByLine
import ExpectationTable.Proofs.Expectation.RoundTrip
import ExpectationTable.Proofs.Converter.Recovery
import ExpectationTable.Proofs.Sink.Limited
import ExpectationTable.Proofs.CommandLine.Pipes
import ExpectationTable.Proofs.Sink.Interrupted
import ExpectationTable.Proofs.Session.Simulation
import ExpectationTable.Proofs.Session.Interruptions
import ExpectationTable.Proofs.Session.Truncation
import ExpectationTable.Proofs.Text.WellEncoded
import ExpectationTable.Proofs.Sink.Flushing
import ExpectationTable.Proofs.Converter.Concatenation
import ExpectationTable.Proofs.Diagnostic.ColourCode
import ExpectationTable.Proofs.Session.Styles
import ExpectationTable.Proofs.Session.ReadErrors
import ExpectationTable.Proofs.Session.Flushes
import ExpectationTable.Proofs.Session.Independence
import ExpectationTable.Proofs.Converter.Terminators
