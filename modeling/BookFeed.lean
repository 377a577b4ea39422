import BookFeed.Main
import BookFeed.Proofs.Book.Batches
import BookFeed.Proofs.Book.Buffering
import BookFeed.Proofs.Book.Convergence
import BookFeed.Proofs.Book.Loss
import BookFeed.Proofs.Command.TopOfBook
import BookFeed.Proofs.Connection.Agreement
import BookFeed.Proofs.Connection.Delivery
import BookFeed.Proofs.Connection.Frames
import BookFeed.Proofs.Connection.Interleaving
import BookFeed.Proofs.Connection.Overlap
import BookFeed.Proofs.Connection.Sharing
import BookFeed.Proofs.Market.Fetches
import BookFeed.Proofs.Market.Isolation
import BookFeed.Proofs.Market.Publication
import BookFeed.Seed.ScriptedServer
import BookFeed.WebSocket.Exchange
import BookFeed.Proofs.Connection.Cuts
import BookFeed.Proofs.Feed.History
import BookFeed.Proofs.Connection.Balance
import BookFeed.Proofs.Connection.Repeats
import BookFeed.Proofs.Feed.Dispatch
import BookFeed.Proofs.Feed.Removal
import BookFeed.Proofs.Feed.Foreign
import BookFeed.Proofs.Json.RoundTrip
import BookFeed.Proofs.Feed.Naming
import BookFeed.Proofs.Feed.Wire
import BookFeed.Proofs.Book.Numbers
import BookFeed.Proofs.Feed.Rearranged
import BookFeed.Proofs.Book.Spread
import BookFeed.Proofs.Seed.Order
import BookFeed.Proofs.Command.LastClose
import BookFeed.Proofs.Json.Kept
import BookFeed.Proofs.Seed.TradeLists
import BookFeed.Proofs.Calendar.Days
import BookFeed.Proofs.Calendar.Rfc3339
import BookFeed.Proofs.Seed.Times
import BookFeed.Proofs.Book.Middle
import BookFeed.Proofs.Book.Table
