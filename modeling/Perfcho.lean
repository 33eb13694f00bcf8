import Perfcho.Consumers.Isolation
import Perfcho.Content.Filenames
import Perfcho.Content.StatusLog
import Perfcho.Durable.Outbox
import Perfcho.Durable.Playlists
import Perfcho.Durable.PublicIds
import Perfcho.Lazer.FrameStream
import Perfcho.Lazer.Hub
import Perfcho.Moderation.Periods
import Perfcho.Realtime.Deadlines
import Perfcho.Realtime.FrameReader
import Perfcho.Realtime.Ownership
import Perfcho.Redis.AccountIndex
import Perfcho.Redis.Closing
import Perfcho.Redis.Refusals
import Perfcho.Scoring.ReplayText
import Perfcho.Service.Locks
import Perfcho.Service.Submission
import Perfcho.Service.Teams
import Perfcho.Stable.ModFlags
import Perfcho.Stable.PacketStream
import Perfcho.Stable.ReaderRuns
import Perfcho.Stable.RoundEnds
import Perfcho.Stable.SubmissionDigest
