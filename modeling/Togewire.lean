import Togewire.Stream.Manager
import Togewire.Player.Page
import Togewire.Foundation.Ledger
import Togewire.Cache.Manager
import Togewire.Cache.Accounting
import Togewire.Cache.Recency
import Togewire.Cache.Budget
import Togewire.Foundation.Program
import Togewire.Server.State
import Togewire.Server.Workers
import Togewire.Server.Playback
import Togewire.Server.Trace
import Togewire.Server.TakeOver
import Togewire.Server.Snapshot
import Togewire.Server.Sockets
import Togewire.Audio.Exclusion
import Togewire.Spotify.Session
import Togewire.Admin.Setup
import Togewire.Server.Refetch
import Togewire.Cache.Persistence
import Togewire.Media.Names
import Togewire.Media.Store
import Togewire.Media.Tasks
import Togewire.Media.Owners
import Togewire.Media.Copies
import Togewire.Foundation.Tally
import Togewire.Server.Peers
import Togewire.Admin.Changes
import Togewire.Server.Updates
import Togewire.Spotify.RateLimit
import Togewire.Audio.Cookies
import Togewire.Foundation.Json
import Togewire.Spotify.Parsing
import Togewire.Spotify.ConnectState
import Togewire.Audio.Librespot
import Togewire.Stream.Ogg
import Togewire.Stream.Producers
import Togewire.Server.LoginAttempts
import Togewire.Foundation.Reader
import Togewire.Server.IpAddr
import Togewire.Server.ClientIp
import Togewire.Audio.Refusals
import Togewire.Server.Positions
import Togewire.Foundation.Trim
import Togewire.Media.Stems
import Togewire.Media.WorkFiles
import Togewire.Cache.Eviction
import Togewire.Spotify.TrackIds
import Togewire.Spotify.Merging
import Togewire.Foundation.Potential
import Togewire.Server.Polling
import Togewire.Spotify.Unauthorized
import Togewire.Server.Admission
import Togewire.Audio.Images
import Togewire.Foundation.Base64
import Togewire.Audio.Cover
import Togewire.Foundation.Window
import Togewire.Stream.Framing
import Togewire.Stream.Bursts
import Togewire.Foundation.Cyclic
import Togewire.Stream.Checksums
import Togewire.Stream.Lagging
import Togewire.Player.Sessions
import Togewire.Foundation.Hexadecimal
import Togewire.Admin.Sessions
import Togewire.Admin.Access
import Togewire.Foundation.Restart
import Togewire.Settings.Restarts
import Togewire.Foundation.Words
import Togewire.Audio.Sums
import Togewire.Audio.Tools
import Togewire.Audio.Lookups
import Togewire.Foundation.Ranking
import Togewire.Media.Crowding
import Togewire.Daemon.Mirror
import Togewire.Daemon.Capture
import Togewire.Foundation.Exchange
import Togewire.Spotify.Pairing
import Togewire.Spotify.PairingPace
